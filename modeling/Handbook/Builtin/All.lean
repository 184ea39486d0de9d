import Handbook.Builtin.BrowserStack
import Handbook.Builtin.BundleStack
import Handbook.Builtin.Companion
import Handbook.Builtin.ReactStack
import Handbook.Builtin.ServerStack

/-!
The built-in providers.
-/

namespace Handbook.Builtin

/-- The built-in providers in the order in which they are registered. -/
def all : List Provider :=
  [nextApp, nextPages, remix, t3, react, vue, svelte, angular, vanilla, express, fastify, mern, mean,
    fastapi, django, gin, rails, postgresql, mongodb, jest, pytest, tailwind]

end Handbook.Builtin
