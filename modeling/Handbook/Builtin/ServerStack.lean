import Handbook.Builtin.NodeProject

/-!
Stacks for servers. Drivers and further packages follow the database and the way of logging in.
-/

namespace Handbook.Builtin

open Text

def usesTokens (answers : Answers) : Bool := answers.authentication = some "jwt"

def express : Provider := Provider.reliable
  { name := "express"
    displayName := "Node.js + Express"
    category := .known .stack
    projectTypes := ["backend", "fullstack"]
    languages := nodeLanguages
    icon := some "🚂"
    description := "Minimal web framework for Node.js" }
  ["fastify", "django", "rails", "gin"] findManager fun answers findings =>
  let manager := managerOf answers findings
  { dependencies :=
      ⟨["express", "cors", "helmet", "dotenv"],
        ["nodemon", "eslint"]
          ++ when (usesTypes answers) ["typescript", "ts-node", "@types/express", "@types/node"]⟩
    configFiles := [⟨".env.example", "bash", endedLines ["PORT=3000", "NODE_ENV=development"]⟩]
    fileStructure :=
      lines ["src/", "├── routes/", "├── controllers/", "├── middleware/", "├── services/",
        "└── server.ts"]
    commands := nodeCommands manager ++ [("start", s!"{manager} start")]
    securityGuidelines :=
      ["Use helmet for secure HTTP headers", "Rate-limit authentication endpoints"]
    templateVariables := [("framework", .str "express")]
    features := ["rest-api", "middleware"] }

def fastify : Provider := Provider.reliable
  { name := "fastify"
    displayName := "Node.js + Fastify"
    category := .known .stack
    projectTypes := ["backend", "fullstack"]
    languages := nodeLanguages
    icon := some "⚡"
    description := "Fast and low overhead web framework for Node.js" }
  ["express", "django", "rails", "gin"] Provider.noPreparation fun answers _ =>
  let ending := scriptEnding answers
  { dependencies :=
      ⟨["fastify", "@fastify/cors", "@fastify/helmet", "@fastify/env", "@fastify/sensible"]
          ++ packagesFor answers.database
            [("postgresql", ["pg", "@fastify/postgres"]),
              ("mongodb", ["mongoose", "@fastify/mongodb"]), ("mysql", ["mysql2"])]
          ++ when (usesTokens answers) ["@fastify/jwt", "bcryptjs"],
        ["nodemon", "tap"]
          ++ when (usesTypes answers) ["typescript", "@types/node", "ts-node"]
          ++ when (usesTypes answers && usesTokens answers) ["@types/bcryptjs"]⟩
    configFiles := [⟨".env.example", "bash", endedLines ["PORT=3000", "HOST=0.0.0.0"]⟩]
    fileStructure :=
      lines ["src/", "├── plugins/", s!"│   ├── auth.{ending}", s!"│   └── database.{ending}",
        "├── routes/", "├── schemas/", "├── hooks/", s!"├── app.{ending}", s!"└── server.{ending}"]
    sections :=
      [⟨"Fastify Conventions",
        bullets ["Register cross-cutting concerns as encapsulated plugins",
          "Declare a JSON schema for every route body and response"]⟩]
    commands :=
      if usesTypes answers then
        [("dev", "nodemon --exec ts-node src/server.ts"), ("start", "node dist/server.js"),
          ("build", "tsc"), ("test", "tap test/**/*.test.ts"), ("lint", "eslint src/")]
      else
        [("dev", "nodemon src/server.js"), ("start", "node src/server.js"),
          ("test", "tap test/**/*.test.js"), ("lint", "eslint src/")]
    securityGuidelines :=
      ["Always validate input using Fastify JSON schemas",
        "Implement rate limiting using @fastify/rate-limit",
        "Use @fastify/helmet for security headers"]
    templateVariables :=
      [("framework", .str "fastify"),
        ("hasAuthentication", .bool ((answers.authentication.getD "none") ≠ "none"))]
    features :=
      ["rest-api", "plugins", "validation", "routing", "authentication", "database",
        "high-performance"] }

def fastapiPackages (answers : Answers) : List String :=
  ["fastapi", "uvicorn[standard]", "python-multipart", "python-dotenv"]
    ++ packagesFor answers.database
      [("postgresql", ["asyncpg", "databases[postgresql]"]), ("mongodb", ["motor", "beanie"]),
        ("mysql", ["aiomysql", "databases[mysql]"]), ("sqlite", ["aiosqlite", "databases[sqlite]"])]
    ++ when (usesTokens answers) ["python-jose[cryptography]", "passlib[bcrypt]"]

def fastapi : Provider := Provider.reliable
  { name := "fastapi"
    displayName := "Python + FastAPI"
    category := .known .stack
    projectTypes := ["backend", "fullstack"]
    languages := ["Python"]
    icon := some "🚀"
    description := "High-performance Python web framework for building APIs" }
  ["express", "fastify", "django", "rails", "gin"] Provider.noPreparation fun answers _ =>
  { dependencies :=
      ⟨fastapiPackages answers, ["pytest", "pytest-asyncio", "httpx", "black", "flake8", "mypy"]⟩
    configFiles := [⟨"requirements.txt", "text", endedLines (fastapiPackages answers)⟩]
    fileStructure :=
      lines ["app/", "├── api/", "│   └── v1/", "├── core/", "├── models/", "├── schemas/",
        "├── services/", "└── main.py", "tests/"]
    sections :=
      [⟨"FastAPI Conventions",
        bullets ["Declare request and response models with Pydantic",
          "Use dependency injection for database sessions and auth",
          "Keep route handlers thin; move logic into services"]⟩]
    commands :=
      [("dev", "uvicorn app.main:app --reload"), ("build", "pip install -r requirements.txt"),
        ("test", "pytest"), ("lint", "flake8 app && mypy app"), ("format", "black app tests")]
    securityGuidelines := ["Validate every request body with Pydantic models"]
    templateVariables := [("framework", .str "fastapi"), ("pythonVersion", .str "3.11")]
    features := ["rest-api", "async", "openapi"] }

/-- Packages of a Django project. The free answer `caching` adds a cache. -/
def djangoPackages (answers : Answers) : List String :=
  ["Django>=4.2,<5.0", "djangorestframework", "django-cors-headers", "python-dotenv"]
    ++ packagesFor answers.database
      [("postgresql", ["psycopg2-binary"]), ("mysql", ["mysqlclient"])]
    ++ when (usesTokens answers) ["djangorestframework-simplejwt"]
    ++ when (answers.extra "caching" .null).isTrue ["redis", "django-redis"]

def django : Provider := Provider.reliable
  { name := "django"
    displayName := "Python + Django"
    category := .known .stack
    projectTypes := ["backend", "fullstack"]
    languages := ["Python"]
    icon := some "🎸"
    description := "High-level Python web framework that encourages rapid development" }
  ["express", "fastify", "fastapi", "rails", "gin"] Provider.noPreparation fun answers _ =>
  { dependencies :=
      ⟨djangoPackages answers,
        ["pytest", "pytest-django", "black", "flake8", "mypy", "django-debug-toolbar", "factory-boy",
          "coverage"]⟩
    configFiles :=
      [⟨"requirements/base.txt", "text", endedLines (djangoPackages answers)⟩,
        ⟨"pytest.ini", "ini",
          endedLines ["[pytest]", "DJANGO_SETTINGS_MODULE = myproject.settings.testing"]⟩]
    fileStructure :=
      lines ["myproject/", "├── manage.py", "├── myproject/", "│   ├── settings/",
        "│   │   ├── base.py", "│   │   ├── development.py", "│   │   ├── production.py",
        "│   │   └── testing.py", "│   ├── urls.py", "│   ├── wsgi.py", "│   └── asgi.py",
        "├── apps/", "│   ├── users/", "│   └── core/", "├── api/", "│   └── v1/", "├── templates/",
        "├── tests/", "└── requirements/"]
    sections :=
      [⟨"Django Conventions",
        bullets ["Split settings per environment under `myproject/settings/`",
          "Create a migration with every model change"]⟩]
    commands :=
      [("dev", "python manage.py runserver"), ("start", "gunicorn myproject.wsgi:application"),
        ("test", "pytest"), ("lint", "black . && flake8 . && mypy ."),
        ("migrate", "python manage.py migrate"),
        ("migrate:create", "python manage.py makemigrations"), ("shell", "python manage.py shell"),
        ("collectstatic", "python manage.py collectstatic --noinput"),
        ("createsuperuser", "python manage.py createsuperuser")]
    securityGuidelines :=
      ["Enable CSRF protection for forms", "Use the Django ORM to prevent SQL injection",
        "Use permissions and authentication decorators"]
    templateVariables := [("framework", .str "django"), ("hasAdminInterface", .bool true)]
    features :=
      ["rest-api", "orm", "admin-interface", "authentication", "database", "migrations",
        "templating"] }

def gin : Provider := Provider.reliable
  { name := "gin"
    displayName := "Go + Gin"
    category := .known .stack
    projectTypes := ["backend", "fullstack"]
    languages := ["Go"]
    icon := some "🍸"
    description := "Fast HTTP web framework written in Go" }
  ["express", "fastify", "fastapi", "django", "rails"] Provider.noPreparation fun answers _ =>
  { dependencies :=
      ⟨["github.com/gin-gonic/gin", "github.com/gin-contrib/cors", "github.com/gin-contrib/secure",
            "github.com/joho/godotenv"]
          ++ packagesFor answers.database
            [("postgresql", ["github.com/lib/pq", "gorm.io/gorm", "gorm.io/driver/postgres"]),
              ("mysql", ["gorm.io/gorm", "gorm.io/driver/mysql"]),
              ("sqlite", ["gorm.io/gorm", "gorm.io/driver/sqlite"]),
              ("mongodb", ["go.mongodb.org/mongo-driver/mongo"])]
          ++ when (usesTokens answers) ["github.com/golang-jwt/jwt/v5"],
        ["github.com/stretchr/testify", "github.com/gin-contrib/pprof",
          "github.com/swaggo/gin-swagger", "github.com/swaggo/files"]⟩
    configFiles := [⟨".env.example", "bash", endedLines ["PORT=8080", "GIN_MODE=debug"]⟩]
    fileStructure :=
      lines ["cmd/", "└── server/", "    └── main.go", "internal/", "├── config/", "├── handlers/",
        "├── middleware/", "├── models/", "├── repository/", "└── services/", "pkg/", "└── api/",
        "    └── router.go", "go.mod", "Makefile"]
    sections :=
      [⟨"Go Conventions",
        bullets ["Keep packages under `internal/` unless other modules import them",
          "Bind and validate request bodies with Gin binding tags"]⟩]
    commands :=
      [("dev", "go run cmd/server/main.go"), ("start", "./bin/server"),
        ("build", "go build -o bin/server cmd/server/main.go"), ("test", "go test -v ./..."),
        ("lint", "go fmt ./... && go vet ./..."), ("tidy", "go mod tidy"),
        ("deps", "go mod download")]
    securityGuidelines :=
      ["Always validate input using Gin binding tags",
        "Use parameterized queries with GORM to prevent SQL injection",
        "Implement rate limiting middleware"]
    templateVariables := [("framework", .str "gin"), ("hasJWT", .bool (usesTokens answers))]
    features :=
      ["rest-api", "high-performance", "concurrency", "middleware", "authentication", "database",
        "jwt"] }

def railsGems (answers : Answers) : List String :=
  ["rails", "pg", "puma", "sass-rails", "image_processing", "jbuilder", "bootsnap"]
    ++ packagesFor answers.database [("mysql", ["mysql2"]), ("sqlite", ["sqlite3"])]

def rails : Provider := Provider.reliable
  { name := "rails"
    displayName := "Ruby on Rails"
    category := .known .stack
    projectTypes := ["fullstack", "backend"]
    languages := ["Ruby"]
    icon := some "💎"
    description := "Convention over configuration web framework for Ruby" }
  ["nextjs-app", "nextjs-pages", "remix", "t3", "mern", "mean", "express", "fastify", "django",
    "fastapi"] Provider.noPreparation fun answers _ =>
  { dependencies := ⟨railsGems answers, ["debug", "web-console"]⟩
    configFiles :=
      [⟨"Gemfile", "ruby",
        endedLines (["source \"https://rubygems.org\"", ""]
          ++ (railsGems answers).map fun gem => "gem \"" ++ gem ++ "\"")⟩]
    fileStructure :=
      lines ["app/", "├── controllers/", "│   └── api/", "│       └── v1/", "├── models/",
        "├── views/", "│   └── layouts/", "├── jobs/", "└── mailers/", "config/", "├── routes.rb",
        "├── database.yml", "├── environments/", "└── initializers/", "db/", "├── migrate/",
        "└── seeds.rb", "Gemfile"]
    sections :=
      [⟨"Rails Conventions",
        bullets ["Follow RESTful resource routes in `config/routes.rb`",
          "Whitelist attributes with strong parameters"]⟩]
    commands :=
      [("dev", "rails server"), ("start", "rails server -e production"),
        ("console", "rails console"), ("test", "rails test"), ("db:create", "rails db:create"),
        ("db:migrate", "rails db:migrate"), ("db:seed", "rails db:seed"), ("routes", "rails routes")]
    securityGuidelines :=
      ["Use strong parameters to prevent mass assignment", "Enable force_ssl in production"]
    templateVariables := [("framework", .str "rails"), ("hasActiveRecord", .bool true)]
    features := ["mvc", "orm", "migrations", "routing", "templating", "real-time"] }

end Handbook.Builtin
