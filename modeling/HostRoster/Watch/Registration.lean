/-!
# Registrations

Events reach a handler only after it has been registered with the source, once, for one namespace.
-/

set_option autoImplicit false

namespace HostRoster

/-- Why nothing is registered. -/
inductive RegistrationError where
  /-- The source has a handler. -/
  | alreadyRegistered
  /-- The namespace is empty. -/
  | emptyNamespace
  /-- No source has been set up. -/
  | notRegistered
  deriving DecidableEq, Repr

/-- The message of a registration error. -/
def RegistrationError.message : RegistrationError → String
  | .alreadyRegistered => "an event handler is already registered on this watch source"
  | .emptyNamespace => "watch namespace must not be empty"
  | .notRegistered => "no watch source has been registered"

/-- A handler that is registered for the events of a namespace. -/
structure Registration (Handler : Type) where
  /-- The namespace. -/
  namespaceName : String
  /-- Who handles the events. -/
  handler : Handler
  deriving DecidableEq, Repr

/-- Registers a handler for a namespace where `held` may be registered. -/
def Registration.register {Handler : Type} (held : Option (Registration Handler))
    (namespaceName : String) (handler : Handler) :
    Except RegistrationError (Registration Handler) :=
  if namespaceName = "" then .error .emptyNamespace
  else if held.isSome then .error .alreadyRegistered
  else .ok ⟨namespaceName, handler⟩

end HostRoster
