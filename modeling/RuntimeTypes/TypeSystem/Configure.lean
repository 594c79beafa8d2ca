import RuntimeTypes.TypeSystem.Classes

/-!
Applying settings, which can be done once.
-/

namespace RuntimeTypes

namespace TypeSystem

/-- The registrations that a policy asks for at once. -/
def registerBuiltins (s : TypeSystem) (policy : InitPolicy) (find : Finder := descriptorOf) :
    Except Error Unit × TypeSystem :=
  match policy with
  | .onDemand => (.ok (), s)
  | .eager => s.registerAll ExceptionClass.builtins find

/-- Applies settings.  A store or global registry that is not in use yet is made
as they say; one that is in use must agree with them.  The settings count only
if nothing fails. -/
def configure (s : TypeSystem) (config : Config) (find : Finder := descriptorOf) :
    Except Error Unit × TypeSystem :=
  if s.config?.isSome then (.error .alreadyInitialized, s)
  else
    let store := s.store?.getD (.ofChunkSize config.arenaChunkSize)
    let s := { s with store? := some store }
    if store.chunkSize ≠ Arena.clampChunkSize config.arenaChunkSize then
      (.error (.registryInUse .arenaChunkSize),
        s.report (.storeInUse store.chunkSize config.arenaChunkSize))
    else
      let registry := s.global?.getD (.empty config.rootPolicy)
      let s := { s with global? := some registry }
      if registry.policy ≠ config.rootPolicy then
        (.error (.registryInUse .rootPolicy),
          s.report (.policyInUse registry.policy config.rootPolicy))
      else
        match (s.setLevel config.logLevel).registerBuiltins config.initPolicy find with
        | (.error e, s) => (.error e, s)
        | (.ok (), s) =>
            (.ok (), { s.report (.initialized config.initPolicy s.globalRegistry.size) with
              config? := some config })

/-- Reads the settings from the environment. -/
def configFromEnvironment (s : TypeSystem) : Except Error Config :=
  Config.ofEnvironment s.environment

end TypeSystem

end RuntimeTypes
