import Handbook.Builtin.NodeProject

/-!
Bundles of a MongoDB database, an Express server and a client in one repository.
-/

namespace Handbook.Builtin

open Text

def bundleServer : List String :=
  ["express", "mongoose", "cors", "dotenv", "helmet", "bcryptjs", "jsonwebtoken", "express-validator"]

def bundleServerTypes : List String :=
  ["@types/express", "@types/cors", "@types/bcryptjs", "@types/jsonwebtoken"]

def bundleCommands (manager : String) : Table String :=
  [("dev", s!"{runner manager} dev"), ("server", s!"{runner manager} server"),
    ("client", s!"{runner manager} client"), ("build", s!"{runner manager} build"),
    ("test", s!"{manager} test")]

/-- The example of the server's settings. -/
def bundleSettings (port : String) : ConfigFile :=
  ⟨"server/.env.example", "bash",
    endedLines ["PORT=" ++ port, "MONGODB_URI=mongodb://localhost:27017/app", "JWT_SECRET=change-me"]⟩

/-- MongoDB, Express, React and Node. -/
def mern : Provider := Provider.reliable
  { name := "mern"
    displayName := "MERN Stack"
    category := .known .stack
    projectTypes := ["fullstack"]
    languages := nodeLanguages
    icon := some "🍃"
    description := "MongoDB, Express.js, React, Node.js full-stack application" }
  ["nextjs-app", "nextjs-pages", "remix", "t3", "mean", "express", "fastify"] findManager
  fun answers findings =>
  { dependencies :=
      ⟨bundleServer ++ ["react", "react-dom", "react-router-dom", "axios"],
        ["nodemon", "concurrently", "@vitejs/plugin-react", "vite", "eslint", "eslint-plugin-react",
            "eslint-plugin-react-hooks"]
          ++ when (usesTypes answers)
            (["typescript", "@types/node"] ++ bundleServerTypes ++ ["@types/react", "@types/react-dom"])
          ++ packagesFor answers.testing
            [("jest",
                ["jest", "supertest", "@testing-library/react", "@testing-library/jest-dom"]),
              ("vitest", ["vitest", "@testing-library/react", "jsdom"])]
          ++ stylingPackages answers⟩
    configFiles := [bundleSettings "5000"]
    fileStructure :=
      lines ["client/", "├── src/", "│   ├── components/", "│   ├── pages/", "│   ├── hooks/",
        "│   ├── services/", "│   └── App.tsx", "└── vite.config.ts", "server/", "├── config/",
        "├── controllers/", "├── middleware/", "├── models/", "├── routes/", "└── server.js",
        "package.json"]
    sections :=
      [⟨"MERN Layout",
        bullets ["`client/` holds the React app and `server/` the Express API",
          "Run both together with `concurrently` during development"]⟩]
    commands := bundleCommands (managerOf answers findings)
    securityGuidelines :=
      ["Enable CORS only for trusted origins", "Hash passwords with bcrypt",
        "Validate data on both client and server"]
    templateVariables :=
      [("framework", .str "mern"), ("hasMongoDB", .bool true), ("hasJWTAuth", .bool true)]
    features := ["mongodb", "express", "react", "jwt-auth", "rest-api", "spa"] }

/-- MongoDB, Express, Angular and Node. -/
def mean : Provider := Provider.reliable
  { name := "mean"
    displayName := "MEAN Stack"
    category := .known .stack
    projectTypes := ["fullstack"]
    languages := nodeLanguages
    icon := some "🅰"
    description := "MongoDB, Express.js, Angular, Node.js full-stack application" }
  ["nextjs-app", "nextjs-pages", "remix", "t3", "mern", "express", "fastify"] findManager
  fun answers findings =>
  { dependencies :=
      ⟨bundleServer
          ++ ["@angular/animations", "@angular/common", "@angular/compiler", "@angular/core",
            "@angular/forms", "@angular/platform-browser", "@angular/router", "rxjs", "tslib",
            "zone.js"],
        ["nodemon", "concurrently", "@angular-devkit/build-angular", "@angular/cli",
            "@angular/compiler-cli", "typescript", "@types/node"]
          ++ when (usesTypes answers) bundleServerTypes
          ++ stylingPackages answers⟩
    configFiles := [bundleSettings "3000"]
    fileStructure :=
      lines ["client/", "├── src/", "│   ├── app/", "│   │   ├── components/", "│   │   ├── services/",
        "│   │   └── guards/", "│   └── main.ts", "└── angular.json", "server/", "├── controllers/",
        "├── middleware/", "├── models/", "├── routes/", "└── server.js", "package.json"]
    sections :=
      [⟨"MEAN Layout",
        bullets ["`client/` holds the Angular app and `server/` the Express API",
          "Protect client routes with Angular route guards"]⟩]
    commands := bundleCommands (managerOf answers findings)
    securityGuidelines :=
      ["Enable CORS only for trusted origins", "Hash passwords with bcrypt",
        "Implement Angular route guards"]
    templateVariables :=
      [("framework", .str "mean"), ("hasMongoDB", .bool true), ("hasJWTAuth", .bool true)]
    features := ["mongodb", "express", "angular", "jwt-auth", "rest-api", "spa", "typescript"] }

end Handbook.Builtin
