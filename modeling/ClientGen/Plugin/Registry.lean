import ClientGen.Plugin.Basic

/-!
Plugins by their identifiers, in the order in which these were registered first, and all calls that
were made to them.
-/

set_option autoImplicit false

namespace ClientGen

/-- The registered plugins, and the calls made to them in order. -/
structure Registry where
  plugins : List Plugin := []
  calls : List (String × Call) := []

namespace Registry

def ids (registry : Registry) : List String := registry.plugins.map (·.id)

def get? (id : String) (registry : Registry) : Option Plugin :=
  registry.plugins.find? (·.id = id)

def contains (id : String) (registry : Registry) : Bool := registry.ids.contains id

/-- Puts a plugin in the place of the one with its identifier, else at the end. -/
def place (plugin : Plugin) : List Plugin → List Plugin
  | [] => [plugin]
  | other :: rest =>
      if other.id = plugin.id then plugin :: rest else other :: place plugin rest

def register (plugin : Plugin) (registry : Registry) : Registry :=
  { plugins := place plugin registry.plugins
    calls := registry.calls.filter (·.1 ≠ plugin.id) }

def callsOf (id : String) (registry : Registry) : List Call :=
  (registry.calls.filter (·.1 = id)).map (·.2)

def call (plugin : Plugin) (call : Call) (registry : Registry) :
    Except PluginError Output × Registry :=
  (plugin.answer (registry.callsOf plugin.id) call,
    { registry with calls := registry.calls ++ [(plugin.id, call)] })

/-- Sets up plugins one after the other until one of them fails. -/
def setupEach (settings : Settings) : List Plugin → Registry → Except PluginError Unit × Registry
  | [], registry => (.ok (), registry)
  | plugin :: rest, registry =>
      match registry.call plugin (.setup settings) with
      | (.error error, changed) => (.error error, changed)
      | (.ok _, changed) => setupEach settings rest changed

/-- Sets up all plugins one after the other until one of them fails. -/
def setupAll (settings : Settings) (registry : Registry) :
    Except PluginError Unit × Registry :=
  setupEach settings registry.plugins registry

end Registry

end ClientGen
