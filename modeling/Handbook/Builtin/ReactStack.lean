import Handbook.Builtin.NodeProject

/-!
Stacks that are built on React: with a server of their own, or as a page in the browser.
-/

namespace Handbook.Builtin

open Text

/-- Packages for types in a project that renders on a server. -/
def serverTypes : List String := ["typescript", "@types/react", "@types/node"]

/-- Frameworks that do not go with one that renders React on a server. -/
def otherViews : List String := ["vue", "angular", "svelte", "react"]

def nextApp : Provider := Provider.reliable
  { name := "nextjs-app"
    displayName := "Next.js 14 (App Router)"
    category := .known .stack
    projectTypes := ["fullstack", "frontend"]
    languages := nodeLanguages
    icon := some "▲"
    description := "React framework with server components and file-based routing" }
  otherViews findManager fun answers findings =>
  { dependencies :=
      ⟨["next", "react", "react-dom"],
        ["eslint", "eslint-config-next"] ++ when (usesTypes answers) serverTypes⟩
    configFiles :=
      [⟨"next.config.js", "javascript",
        endedLines ["/** @type \x7bimport('next').NextConfig\x7d */", "const nextConfig = \x7b\x7d;", "",
          "module.exports = nextConfig;"]⟩]
    fileStructure :=
      lines ["src/", "├── app/", "│   ├── layout.tsx", "│   ├── page.tsx", "│   └── api/",
        "├── components/", "└── lib/"]
    sections :=
      [⟨"Next.js Conventions",
        bullets ["Default to Server Components; add `'use client'` only when needed",
          "Colocate route handlers under `app/api/`",
          "Use `next/image` and `next/link` for assets and navigation"]⟩]
    commands := nodeCommands (managerOf answers findings)
    securityGuidelines := ["Keep secrets out of NEXT_PUBLIC_ environment variables"]
    templateVariables := [("framework", .str "nextjs"), ("routerType", .str "app")]
    features := ["ssr", "ssg", "api-routes", "typescript"] }

def nextPages : Provider := Provider.reliable
  { name := "nextjs-pages"
    displayName := "Next.js 14 (Pages Router)"
    category := .known .stack
    projectTypes := ["fullstack", "frontend"]
    languages := nodeLanguages
    icon := some "⚡"
    description := "Next.js with traditional Pages Router" }
  otherViews findManager fun answers findings =>
  let ending := componentEnding answers
  let manager := managerOf answers findings
  { dependencies :=
      ⟨["next", "react", "react-dom"],
        ["eslint", "eslint-config-next"] ++ when (usesTypes answers) serverTypes⟩
    configFiles :=
      [⟨"next.config.js", "javascript",
        endedLines ["module.exports = \x7b reactStrictMode: true \x7d;"]⟩]
    fileStructure :=
      lines ["src/", "├── pages/", s!"│   ├── _app.{ending}", s!"│   ├── _document.{ending}",
        s!"│   ├── index.{ending}", "│   └── api/", s!"│       └── hello.{ending}", "├── components/",
        "├── styles/", "│   └── globals.css", "└── public/"]
    sections :=
      [⟨"Next.js Conventions",
        bullets ["Fetch page data with `getServerSideProps` or `getStaticProps`",
          "Keep API handlers under `pages/api/`"]⟩]
    commands := nodeCommands manager ++ [("start", s!"{runner manager} start")]
    securityGuidelines :=
      ["Keep secrets out of NEXT_PUBLIC_ environment variables", "Validate all API route inputs"]
    templateVariables := [("framework", .str "nextjs"), ("routerType", .str "pages")]
    features := ["ssr", "ssg", "api-routes", "image-optimization", "routing"] }

def remixDrivers : Table (List String) :=
  [("postgresql", ["pg"]), ("mongodb", ["mongoose"]), ("mysql", ["mysql2"])]

/-- Remix on Vite. -/
def remix : Provider := Provider.reliable
  { name := "remix"
    displayName := "Remix"
    category := .known .stack
    projectTypes := ["fullstack"]
    languages := nodeLanguages
    icon := some "💿"
    description := "Full-stack web framework focused on web standards" }
  ["nextjs-app", "nextjs-pages", "t3", "mern", "mean"] findManager fun answers findings =>
  let ending := componentEnding answers
  let manager := managerOf answers findings
  { dependencies :=
      ⟨["@remix-run/node", "@remix-run/react", "@remix-run/serve", "isbot", "react", "react-dom"]
          ++ packagesFor answers.database remixDrivers,
        ["@remix-run/dev", "vite"]
          ++ when (usesTypes answers) ["typescript", "@types/react", "@types/react-dom"]
          ++ when (usesTypes answers && answers.database = some "postgresql") ["@types/pg"]
          ++ stylingPackages answers
          ++ when (answers.testing = some "vitest") ["vitest", "@testing-library/react", "jsdom"]⟩
    configFiles :=
      [⟨s!"vite.config.{scriptEnding answers}", scriptLanguage answers,
        endedLines ["import \x7b vitePlugin as remix \x7d from '@remix-run/dev';",
          "import \x7b defineConfig \x7d from 'vite';", "",
          "export default defineConfig(\x7b plugins: [remix()] \x7d);"]⟩]
    fileStructure :=
      lines ["app/", s!"├── entry.client.{ending}", s!"├── entry.server.{ending}", s!"├── root.{ending}",
        "├── routes/", s!"│   ├── _index.{ending}", s!"│   └── login.{ending}", "├── components/",
        "├── utils/", s!"│   └── db.server.{scriptEnding answers}", "└── styles/", "public/"]
    sections :=
      [⟨"Remix Conventions",
        bullets ["Load data in route `loader` functions and mutate in `action` functions",
          "Keep server-only modules in `*.server` files"]⟩]
    commands :=
      nodeCommands manager
        ++ [("start", s!"{manager} start"), ("typecheck", s!"{runner manager} typecheck")]
    securityGuidelines :=
      ["Validate all form inputs on the server", "Implement CSRF protection for forms",
        "Use secure session management"]
    templateVariables :=
      [("framework", .str "remix"), ("hasSSR", .bool true), ("hasDataLoading", .bool true)]
    features := ["ssr", "file-routing", "data-loading", "forms", "nested-routing"] }

def usesPrisma (answers : Answers) : Bool :=
  match answers.database with
  | none => true
  | some database => ["postgresql", "mysql", "mongodb"].contains database

def usesNextAuth (answers : Answers) : Bool :=
  answers.authentication = none || answers.authentication = some "nextauth"

/-- Next.js with tRPC, Prisma, NextAuth and Tailwind. -/
def t3 : Provider := Provider.reliable
  { name := "t3"
    displayName := "T3 Stack"
    category := .known .stack
    projectTypes := ["fullstack"]
    languages := ["TypeScript"]
    icon := some "🔺"
    description := "Type-safe full-stack framework with Next.js, tRPC, Prisma, and Tailwind" }
  ["nextjs-app", "nextjs-pages", "remix", "mern", "mean", "express", "fastify"] findManager
  fun answers findings =>
  let manager := managerOf answers findings
  { dependencies :=
      ⟨["next", "react", "react-dom", "@trpc/client", "@trpc/next", "@trpc/react-query",
          "@trpc/server", "@tanstack/react-query", "superjson", "zod"]
          ++ when (usesPrisma answers) ["@prisma/client"]
          ++ when (usesNextAuth answers) ["next-auth"],
        ["typescript", "@types/node", "@types/react", "@types/react-dom", "eslint",
            "eslint-config-next"]
          ++ when (usesPrisma answers) ["prisma"]
          ++ ["tailwindcss", "postcss", "autoprefixer"]
          ++ packagesFor answers.testing
            [("vitest", ["vitest", "@testing-library/react", "jsdom"]),
              ("jest", ["jest", "@testing-library/react", "@testing-library/jest-dom"])]⟩
    configFiles :=
      when (usesPrisma answers)
        [⟨"prisma/schema.prisma", "prisma",
          endedLines ["generator client \x7b", "  provider = \"prisma-client-js\"", "\x7d", "",
            "datasource db \x7b", "  provider = \"" ++ answers.database.getD "postgresql" ++ "\"",
            "  url      = env(\"DATABASE_URL\")", "\x7d"]⟩]
    fileStructure :=
      lines ["src/", "├── env.mjs", "├── pages/", "│   ├── _app.tsx", "│   ├── index.tsx",
        "│   └── api/", "│       ├── trpc/", "│       └── auth/", "├── server/", "│   ├── api/",
        "│   │   ├── routers/", "│   │   ├── root.ts", "│   │   └── trpc.ts", "│   ├── auth.ts",
        "│   └── db.ts", "├── utils/", "│   └── api.ts", "└── styles/", "prisma/",
        "└── schema.prisma"]
    sections :=
      [⟨"T3 Conventions",
        bullets ["Define procedures in `server/api/routers/` and merge them in `root.ts`",
          "Validate procedure inputs and environment variables with Zod"]⟩]
    commands :=
      nodeCommands manager ++ [("start", s!"{manager} start")]
        ++ when (usesPrisma answers)
          [("db:push", "npx prisma db push"), ("db:studio", "npx prisma studio"),
            ("db:migrate", "npx prisma migrate dev"), ("db:generate", "npx prisma generate")]
    securityGuidelines :=
      ["Always validate environment variables with Zod", "Validate all tRPC inputs with Zod schemas",
        "Set a strong NEXTAUTH_SECRET"]
    templateVariables :=
      [("framework", .str "t3"), ("hasTRPC", .bool true), ("hasPrisma", .bool (usesPrisma answers)),
        ("hasNextAuth", .bool (usesNextAuth answers))]
    features := ["trpc", "prisma", "nextauth", "type-safety", "ssr", "tailwind"] }

/-- React in the browser, built with Vite. -/
def react : Provider := Provider.reliable
  { name := "react"
    displayName := "React"
    category := .known .stack
    projectTypes := ["frontend"]
    languages := nodeLanguages
    icon := some "⚛"
    description := "Component-based UI library" }
  ["vue", "angular", "svelte"] findManager fun answers findings =>
  let manager := managerOf answers findings
  { dependencies :=
      ⟨["react", "react-dom"],
        ["vite", "@vitejs/plugin-react", "eslint"]
          ++ when (usesTypes answers) ["typescript", "@types/react", "@types/react-dom"]⟩
    configFiles :=
      [⟨"vite.config.ts", "typescript",
        endedLines ["import \x7b defineConfig \x7d from 'vite';",
          "import react from '@vitejs/plugin-react';", "",
          "export default defineConfig(\x7b plugins: [react()] \x7d);"]⟩]
    fileStructure :=
      lines ["src/", "├── components/", "├── hooks/", "├── pages/", "├── App.tsx", "└── main.tsx"]
    commands := nodeCommands manager ++ [("preview", s!"{runner manager} preview")]
    securityGuidelines := ["Avoid dangerouslySetInnerHTML with untrusted content"]
    templateVariables := [("framework", .str "react")]
    features := ["spa", "hooks", "typescript"] }

end Handbook.Builtin
