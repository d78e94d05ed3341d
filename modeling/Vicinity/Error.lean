import Vicinity.Entity.Id
import Vicinity.Text.Quoted

/-! What can go wrong, by cause, and how each cause is reported. -/
namespace Vicinity

/-- A value that cannot be built. -/
inductive ValidationError where
  | emptyEntityId
  | invalidPropertyBag (keys : List String)
  | filterNotJson
  | invalidFilter (reason : String)
  | poisNotJson
  | invalidPoi (reason : String)
  | missingField (field : String)

/-- An operation that cannot be carried out. -/
inductive ExecutionError where
  | selfIdentityChanged (current requested : EntityId)
  | stopped (component : String)
  | disconnected (path : String)
  | timeout (milliseconds : Nat)
  | lockPoisoned (name : String)

/-- A failure of the transport between the nodes. -/
inductive TransportError where
  | connectionFailed (message : String)
  | publishFailed (channel message : String)
  | subscriptionFailed (channel message : String)
  | decodeFailed (message : String)
  | encodeFailed (message : String)

inductive Error where
  | validation (cause : ValidationError)
  | execution (cause : ExecutionError)
  | transport (cause : TransportError)
  | internal (message : String)

def ValidationError.message : ValidationError → String
  | .emptyEntityId => "Entity id cannot be empty"
  | .invalidPropertyBag keys =>
    "Property bag must have exactly one top-level key 'properties' holding an object, got keys " ++
      Text.quoteAll keys
  | .filterNotJson => "Invalid properties filter: not JSON"
  | .invalidFilter reason => "Invalid properties filter: " ++ reason
  | .poisNotJson => "Invalid point of interest list: not JSON"
  | .invalidPoi reason => "Invalid point of interest list: " ++ reason
  | .missingField field => "Required field '" ++ field ++ "' is missing"

def ExecutionError.message : ExecutionError → String
  | .selfIdentityChanged current requested =>
    "Self entity id cannot change (current: " ++ current.text ++ ", requested: " ++
      requested.text ++ ")"
  | .stopped component => "Runtime component '" ++ component ++ "' has been stopped"
  | .disconnected path => "Channel '" ++ path ++ "' disconnected"
  | .timeout milliseconds => "Operation timed out after " ++ toString milliseconds ++ "ms"
  | .lockPoisoned name => "Lock '" ++ name ++ "' poisoned"

def TransportError.message : TransportError → String
  | .connectionFailed message => "Connection failed: " ++ message
  | .publishFailed channel message => "Publish to '" ++ channel ++ "' failed: " ++ message
  | .subscriptionFailed channel message =>
    "Subscription change on '" ++ channel ++ "' failed: " ++ message
  | .decodeFailed message => "Failed to decode message: " ++ message
  | .encodeFailed message => "Failed to encode message: " ++ message

namespace Error

def message : Error → String
  | .validation cause => "Validation error: " ++ cause.message
  | .execution cause => "Execution error: " ++ cause.message
  | .transport cause => "Transport error: " ++ cause.message
  | .internal message => "Internal error: " ++ message

/-- Whether the same call may succeed later. -/
def retryable : Error → Bool
  | .execution (.timeout _) => true
  | .transport (.connectionFailed _) => true
  | .transport (.publishFailed _ _) => true
  | .transport (.subscriptionFailed _ _) => true
  | _ => false

end Error

end Vicinity
