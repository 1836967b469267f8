import AuditTrail.Whitelist.Scope

/-!
# Whitelist/Request — whitelist requests written as role options

A role option such as `grant_audit_whitelist_for_select` names an action and a scope, and its value
lists resources between commas.  `Action.parseOption` and `parseResources` read the two.
-/

namespace AuditTrail

open AuditTrail.Text

/-- Adding to a whitelist or taking from it. -/
inductive Action
  | grant | revoke
  deriving DecidableEq, Repr

namespace Action

/-- The name of an action. -/
def name : Action → String
  | .grant => "grant"
  | .revoke => "revoke"

/-- How the option of an action starts. -/
def optionStart (action : Action) : List Char := action.name.toList ++ "_audit_whitelist_for_".toList

/-- The option between blanks, with one underscore for every run of blanks, in lower case. -/
def normalOption (option : String) : List Char := lower (joinBlanks '_' (strip option.toList))

/-- The action whose option start the text has, and the rest of the text. -/
def ofStart? (cs : List Char) : Option (Action × List Char) :=
  if optionStart .grant |>.isPrefixOf cs then some (.grant, cs.drop (optionStart .grant).length)
  else if optionStart .revoke |>.isPrefixOf cs then some (.revoke, cs.drop (optionStart .revoke).length)
  else none

/-- **Reading an option** into its action and its scope. -/
def parseOption (option : String) : Except WhitelistError (Action × Scope) :=
  match ofStart? (normalOption option) with
  | none => .error (.unknownOption option)
  | some (action, rest) => (Scope.parse (String.ofList rest)).map (action, ·)

end Action

/-- The resource of one name of a list. -/
def parseListed (name : List Char) : Except WhitelistError Resource :=
  (Resource.parse (String.ofList name)).mapError (.invalidResource (String.ofList name))

/-- **Reading a list of resources** between commas; names that are blank are left out. -/
def parseResources (value : String) : Except WhitelistError (List Resource) :=
  (((value.toList.splitOn ',').map strip).filter (!·.isEmpty)).mapM parseListed

end AuditTrail
