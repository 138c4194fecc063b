import PromptStudio.Text.Numeral

/-!
# Why a request is rejected

Each reason has one message. None of them is found out by asking anybody else.
-/

namespace PromptStudio

/-- What is wrong with a request. -/
inductive Rejection where
  | emptyTerm
  | longTerm (limit : Nat)
  | missing (name : String)
  | tooLong (name : String) (limit : Nat)
  | notWhole (name : String)
  | unknownPolicy (code : String)
  | unknownMode (code : String)
  | entityId (text : String)
  | emptyName
  | longName (limit : Nat)
  | query
  | path
  | contentType
  | bodySize
  | bodyMalformed
  | bodyUnfit
  deriving DecidableEq, Repr

def Rejection.message : Rejection → String
  | emptyTerm => "term cannot be empty"
  | longTerm limit => "term must be at most " ++ Text.Numeral.ofNat limit ++ " characters"
  | missing name => "Missing " ++ name
  | tooLong name limit =>
    name ++ " must be at most " ++ Text.Numeral.ofNat limit ++ " characters"
  | notWhole name => name ++ " must be a whole number"
  | unknownPolicy code => "Unknown policy '" ++ code ++ "'"
  | unknownMode code => "Unknown mode '" ++ code ++ "'"
  | entityId text => "Invalid entity id '" ++ text ++ "'"
  | emptyName => "name cannot be empty"
  | longName limit => "name must be at most " ++ Text.Numeral.ofNat limit ++ " characters"
  | query => "Failed to deserialize query string"
  | path => "Invalid URL"
  | contentType => "Expected request with `Content-Type: application/json`"
  | bodySize => "Failed to buffer the request body"
  | bodyMalformed => "Failed to parse the request body as JSON"
  | bodyUnfit => "Failed to deserialize the JSON body into the target type"

end PromptStudio
