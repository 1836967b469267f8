import AuditTrail.CommandLine.Switch

/-!
# CommandLine/Finding — what a command line sets

`Finding.ofWords` reads the words of a command with one operand that may be left out; `Lead.ofWords`
reads the words up to the name of a command.  Words that fit nowhere are kept as extras.
-/

namespace AuditTrail.CommandLine

/-- **Why reading ends early**: help or the version is asked for, or the command line is misused. -/
inductive Stop
  | help
  | version
  | misuse (m : Misuse)
  deriving DecidableEq, Repr

/-- **What the words of a command set**: the operand, the switches in their order with their values, and
the words that fit nowhere. -/
structure Finding where
  operand : Option String
  settings : List (Switch × String)
  extras : List String
  deriving DecidableEq, Repr

namespace Finding

/-- Nothing is set. -/
def empty : Finding := ⟨none, [], []⟩

/-- With a switch before the others. -/
def set (switch : Switch) (value : String) (f : Finding) : Finding :=
  { f with settings := (switch, value) :: f.settings }

/-- With a word that fits nowhere. -/
def extra (word : String) (f : Finding) : Finding := { f with extras := word :: f.extras }

/-- With the operand. -/
def operate (word : String) (f : Finding) : Finding := { f with operand := some word }

end Finding

/-- A value has to be one of the choices. -/
def checkChoice (switch : Switch) (value : String) : Except Stop Unit :=
  if switch.choices.isEmpty || switch.choices.contains value then .ok ()
  else .error (.misuse (.notAChoice switch.title value switch.choices))

/-- The value attached to a switch that takes none is refused. -/
def refuseValue (switch : Switch) (value : List Char) : Except Stop Unit :=
  .error (.misuse (.valueRefused switch.title (String.ofList value)))

/-- What directly follows the letter of a switch that takes no value: its letter may follow again, and
only then a value may be assigned, which is refused; anything else but a hyphen is let pass. -/
def checkJoined (switch : Switch) : List Char → Except Stop Unit
  | [] => .ok ()
  | '-' :: rest => refuseValue switch ('-' :: rest)
  | letter :: '=' :: rest =>
    if switch.names.contains (String.ofList ['-', letter]) then refuseValue switch rest else .ok ()
  | letter :: rest =>
    if switch.names.contains (String.ofList ['-', letter]) then checkJoined switch rest else .ok ()

/-- A switch that takes no value. -/
def applySwitch (use : Use) : Except Stop Unit := do
  match use.attached with
  | .nothing => pure ()
  | .assigned value => refuseValue use.switch value.toList
  | .joined value => checkJoined use.switch value.toList
  match use.switch.effect with
  | .help => throw .help
  | .version => throw .version
  | _ => pure ()

/-- **What the words of a command set.**  The first operand is that of the command, with the divider
before or after it; `open` tells that it has not come yet. -/
def Finding.ofWords : (isOpen : Bool) → List Word → Except Stop Finding
  | _, [] => .ok .empty
  | isOpen, ⟨text, .unknown⟩ :: rest => (ofWords isOpen rest).map (·.extra text)
  | isOpen, ⟨_, .switch use⟩ :: rest =>
    if use.switch.effect = .value then
      match use.attached.value?, rest with
      | some value, rest => do
        checkChoice use.switch value
        return (← ofWords isOpen rest).set use.switch value
      | none, ⟨value, .operand⟩ :: rest => do
        checkChoice use.switch value
        return (← ofWords isOpen rest).set use.switch value
      | none, _ => .error (.misuse (.valueMissing use.switch.title))
    else do
      applySwitch use
      return (← ofWords isOpen rest).set use.switch ""
  | true, ⟨_, .divider⟩ :: ⟨text, .operand⟩ :: rest => (ofWords false rest).map (·.operate text)
  | true, ⟨_, .divider⟩ :: rest => ofWords false rest
  | true, ⟨text, .operand⟩ :: ⟨_, .divider⟩ :: rest => (ofWords false rest).map (·.operate text)
  | true, ⟨text, .operand⟩ :: rest => (ofWords false rest).map (·.operate text)
  | false, ⟨text, .divider⟩ :: rest => (ofWords false rest).map (·.extra text)
  | false, ⟨text, .operand⟩ :: rest => (ofWords false rest).map (·.extra text)

/-- **The words up to a command**: its name with all that follows it, and the words before it that fit
nowhere. -/
structure Lead where
  command : Option (String × List String)
  extras : List String
  deriving DecidableEq, Repr

/-- With a word that fits nowhere. -/
def Lead.extra (word : String) (l : Lead) : Lead := { l with extras := word :: l.extras }

/-- **The words up to a command.**  A divider before it counts as its name. -/
def Lead.ofWords : List Word → Except Stop Lead
  | [] => .ok ⟨none, []⟩
  | ⟨text, .unknown⟩ :: rest => (ofWords rest).map (·.extra text)
  | ⟨_, .switch use⟩ :: rest => do
    applySwitch use
    ofWords rest
  | [⟨text, .divider⟩] => .ok ⟨none, [text]⟩
  | ⟨text, _⟩ :: rest => .ok ⟨some (text, rest.map (·.text)), []⟩

end AuditTrail.CommandLine
