import Handbook.Builtin.NodeProject

/-!
Stacks for the browser that are not built on React. Their commands name their tools, so that no lockfile
is looked for.
-/

namespace Handbook.Builtin

open Text

/-- Vue with its router and its store, built with Vite. -/
def vue : Provider := Provider.reliable
  { name := "vue"
    displayName := "Vue.js"
    category := .known .stack
    projectTypes := ["frontend", "fullstack"]
    languages := nodeLanguages
    icon := some "💚"
    description := "The Progressive JavaScript Framework" }
  ["react", "angular", "svelte"] Provider.noPreparation fun answers _ =>
  let ending := scriptEnding answers
  { dependencies :=
      ⟨["vue", "vue-router", "pinia"],
        ["@vitejs/plugin-vue", "vite", "eslint", "eslint-plugin-vue"]
          ++ when (usesTypes answers) ["typescript", "vue-tsc", "@types/node"]
          ++ stylingPackages answers
          ++ packagesFor answers.testing
            [("vitest", ["vitest", "@vue/test-utils", "jsdom"]),
              ("jest", ["jest", "@vue/test-utils", "@vue/vue3-jest", "babel-jest"])]⟩
    configFiles :=
      [⟨s!"vite.config.{ending}", scriptLanguage answers,
        endedLines ["import \x7b defineConfig \x7d from 'vite';",
          "import vue from '@vitejs/plugin-vue';", "",
          "export default defineConfig(\x7b plugins: [vue()] \x7d);"]⟩]
    fileStructure :=
      lines ["src/", "├── components/", "│   ├── AppLayout.vue", "│   └── AppHeader.vue",
        "├── composables/", "├── views/", "│   ├── HomeView.vue", "│   └── AboutView.vue",
        "├── router/", s!"│   └── index.{ending}", "├── stores/", "├── App.vue", s!"└── main.{ending}"]
    sections :=
      [⟨"Vue Conventions",
        bullets ["Use `<script setup>` with the Composition API", "Keep shared state in Pinia stores"]⟩]
    commands :=
      [("dev", "vite"), ("build", "vite build"), ("preview", "vite preview"), ("test", "vitest"),
          ("lint", "eslint . --ext .vue,.js,.jsx,.cjs,.mjs,.ts,.tsx,.cts,.mts --fix")]
        ++ when (usesTypes answers) [("type-check", "vue-tsc --noEmit")]
    securityGuidelines := ["Use v-html carefully and sanitize content"]
    templateVariables := [("framework", .str "vue"), ("usesSFC", .bool true)]
    features :=
      ["spa", "components", "composition-api", "routing", "state-management", "reactive"] }

def svelte : Provider := Provider.reliable
  { name := "svelte"
    displayName := "Svelte"
    category := .known .stack
    projectTypes := ["frontend", "fullstack"]
    languages := nodeLanguages
    icon := some "🧡"
    description := "Cybernetically enhanced web apps" }
  ["react", "vue", "angular"] Provider.noPreparation fun answers _ =>
  let ending := scriptEnding answers
  let check := "svelte-kit sync && svelte-check --tsconfig ./tsconfig.json"
  { dependencies :=
      ⟨["@sveltejs/kit", "svelte"],
        ["@sveltejs/adapter-auto", "@sveltejs/kit", "@sveltejs/vite-plugin-svelte", "svelte", "vite",
            "eslint", "eslint-plugin-svelte"]
          ++ when (usesTypes answers) ["typescript", "tslib", "@types/node", "svelte-check"]
          ++ stylingPackages answers
          ++ packagesFor answers.testing
            [("vitest", ["vitest", "@testing-library/svelte", "jsdom"]),
              ("playwright", ["@playwright/test"])]⟩
    configFiles :=
      [⟨"svelte.config.js", "javascript",
        endedLines ["import adapter from '@sveltejs/adapter-auto';", "",
          "export default \x7b kit: \x7b adapter: adapter() \x7d \x7d;"]⟩]
    fileStructure :=
      lines ["src/", "├── lib/", "│   ├── components/", "│   ├── stores/", s!"│   └── index.{ending}",
        "├── routes/", "│   ├── +layout.svelte", "│   ├── +page.svelte", "│   └── +error.svelte",
        "├── app.html", s!"└── hooks.server.{ending}", "static/"]
    commands :=
      [("dev", "vite dev"), ("build", "vite build"), ("preview", "vite preview"), ("test", "vitest"),
          ("lint", "eslint ."), ("format", "prettier --write .")]
        ++ when (usesTypes answers) [("check", check), ("check:watch", check ++ " --watch")]
    securityGuidelines :=
      ["Use \x7b@html\x7d carefully and sanitize content", "Validate form data server-side"]
    templateVariables := [("framework", .str "svelte"), ("usesFileBasedRouting", .bool true)]
    features :=
      ["spa", "ssr", "ssg", "components", "routing", "state-management", "reactive"] }

def angular : Provider := Provider.reliable
  { name := "angular"
    displayName := "Angular"
    category := .known .stack
    projectTypes := ["frontend"]
    languages := ["TypeScript"]
    icon := some "🅰"
    description := "Batteries-included frontend framework" }
  ["react", "vue", "svelte"] Provider.noPreparation fun _ _ =>
  { dependencies :=
      ⟨["@angular/core", "@angular/common", "@angular/router", "rxjs", "zone.js"],
        ["@angular/cli", "@angular-devkit/build-angular", "typescript"]⟩
    fileStructure :=
      lines ["src/", "├── app/", "│   ├── components/", "│   ├── services/", "│   └── app.config.ts",
        "└── main.ts"]
    sections :=
      [⟨"Angular Conventions",
        bullets ["Prefer standalone components", "Keep business logic in services"]⟩]
    commands := [("dev", "ng serve"), ("build", "ng build"), ("test", "ng test"), ("lint", "ng lint")]
    securityGuidelines :=
      ["Rely on Angular's built-in sanitization; avoid bypassSecurityTrust*"]
    templateVariables := [("framework", .str "angular")]
    features := ["spa", "dependency-injection", "typescript"] }

/-- No framework at all, built with Vite. -/
def vanilla : Provider := Provider.reliable
  { name := "vanilla"
    displayName := "Vanilla JS"
    category := .known .stack
    projectTypes := ["frontend"]
    languages := nodeLanguages
    icon := some "🍦"
    description := "Pure JavaScript with modern tooling" }
  ["react", "vue", "angular", "svelte"] Provider.noPreparation fun answers _ =>
  let ending := scriptEnding answers
  let testers (framework : String) : List String :=
    [framework, "jsdom", "@testing-library/dom", "@testing-library/user-event"]
  { dependencies :=
      ⟨[],
        ["vite", "eslint"]
          ++ when (usesTypes answers) ["typescript", "@types/node"]
          ++ stylingPackages answers
          ++ packagesFor answers.testing [("vitest", testers "vitest"), ("jest", testers "jest")]⟩
    fileStructure :=
      lines ["src/", "├── components/", "├── pages/", "├── utils/", s!"│   └── dom.{ending}",
        "├── services/", s!"│   └── api.{ending}", "├── styles/", s!"├── router.{ending}",
        s!"└── main.{ending}", "public/", "└── index.html"]
    commands :=
      [("dev", "vite"), ("build", "vite build"), ("preview", "vite preview"), ("test", "vitest"),
          ("lint", "eslint src/ --ext js,ts")]
        ++ when (usesTypes answers) [("type-check", "tsc --noEmit")]
    securityGuidelines :=
      ["Use textContent instead of innerHTML when possible",
        "Validate API responses before processing"]
    templateVariables := [("framework", .str "vanilla"), ("usesPureJS", .bool true)]
    features := ["spa", "components", "routing", "utilities", "dom-manipulation"] }

end Handbook.Builtin
