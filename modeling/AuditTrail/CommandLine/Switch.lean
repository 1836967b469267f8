import AuditTrail.Text.Quoted
import AuditTrail.Text.Word

/-!
# CommandLine/Switch — the words of a command line

A `Switch` is an option with its names.  `classify` tells what each word of a command line is: a
switch, perhaps shortened and perhaps with a value attached, a word that looks like one, or an operand.
-/

namespace AuditTrail.CommandLine

open AuditTrail.Text

/-- What a switch does. -/
inductive Effect
  | help | version | flag | value
  deriving DecidableEq, Repr

/-- **An option**: its names, what it does, and the values it takes, any if none are listed. -/
structure Switch where
  names : List String
  effect : Effect
  choices : List String
  deriving DecidableEq, Repr

/-- The names of the switch as messages show them. -/
def Switch.title (s : Switch) : String := "/".intercalate s.names

/-- **What is wrong with a command line.** -/
inductive Misuse
  | ambiguous (word : String) (names : List String)
  | valueMissing (title : String)
  | valueRefused (title value : String)
  | notAChoice (title value : String) (choices : List String)
  | unrecognized (words : List String)
  deriving DecidableEq, Repr

/-- The text about a part of the command line. -/
def aboutArgument (title text : String) : String := "argument " ++ title ++ ": " ++ text

/-- The text of a misuse. -/
def Misuse.message : Misuse → String
  | .ambiguous word names =>
    "ambiguous option: " ++ word ++ " could match " ++ ", ".intercalate names
  | .valueMissing title => aboutArgument title "expected one argument"
  | .valueRefused title value => aboutArgument title ("ignored explicit argument " ++ quote value)
  | .notAChoice title value choices =>
    aboutArgument title ("invalid choice: " ++ quote value ++ " (choose from " ++
      ", ".intercalate (choices.map quote) ++ ")")
  | .unrecognized words => "unrecognized arguments: " ++ " ".intercalate words

/-- What is attached to the name of a switch: nothing, a value after an equals sign, or what directly
follows a letter. -/
inductive Attached
  | nothing
  | assigned (value : String)
  | joined (value : String)
  deriving DecidableEq, Repr

/-- The attached value. -/
def Attached.value? : Attached → Option String
  | .nothing => none
  | .assigned value => some value
  | .joined value => some value

/-- A use of a switch: the name, in full, and what is attached to it. -/
structure Use where
  switch : Switch
  name : String
  attached : Attached
  deriving DecidableEq, Repr

/-- **What a word is.** -/
inductive Role
  | switch (use : Use)
  | unknown
  | operand
  | divider
  deriving DecidableEq, Repr

/-- A word of a command line. -/
structure Word where
  text : String
  role : Role
  deriving DecidableEq, Repr

/-! ## Telling words apart -/

/-- The names with their switches. -/
def named (switches : List Switch) : List (Switch × String) :=
  switches.flatMap fun s => s.names.map (s, ·)

/-- A text before and after its first equals sign. -/
def splitAssignment? (text : List Char) : Option (List Char × String) :=
  match text.span (· ≠ '=') with
  | (_, []) => none
  | (name, _ :: value) => some (name, String.ofList value)

/-- The uses that a long word may be short for; a value may be attached with an equals sign. -/
def longUses (switches : List Switch) (text : List Char) : List Use :=
  let (start, attached) := match splitAssignment? text with
    | some (name, value) => (name, Attached.assigned value)
    | none => (text, .nothing)
  ((named switches).filter fun (_, name) => start.isPrefixOf name.toList).map
    fun (s, name) => ⟨s, name, attached⟩

/-- The uses of a word with one hyphen: a letter with a value attached, or a start of a name. -/
def shortUses (switches : List Switch) (text : List Char) : List Use :=
  (named switches).filterMap fun (s, name) =>
    if name.toList = text.take 2 then some ⟨s, name, .joined (String.ofList (text.drop 2))⟩
    else if text.isPrefixOf name.toList then some ⟨s, name, .nothing⟩
    else none

/-- Digits, with or without a point before the last of them, after a hyphen. -/
def isNegativeNumber (text : List Char) : Bool :=
  let body := if text.getLast? = some '\n' then text.dropLast else text
  match body.drop 1 |>.span (· ≠ '.') with
  | (whole, []) => !whole.isEmpty && whole.all isDecimalDigit
  | (whole, _ :: fraction) =>
    whole.all isDecimalDigit && !fraction.isEmpty && fraction.all isDecimalDigit

/-- The use of a switch by its full name. -/
def fullUse? (switches : List Switch) (text : List Char) : Option Use :=
  let find (name : List Char) (attached : Attached) : Option Use :=
    ((named switches).find? fun (_, n) => n.toList == name).map fun (s, n) => ⟨s, n, attached⟩
  (find text .nothing).orElse fun _ =>
    if text.length = 1 then none
    else (splitAssignment? text).bind fun (name, value) => find name (.assigned value)

/-- What a word that starts with a hyphen is. -/
def hyphenRole (switches : List Switch) (text : List Char) : Except Misuse Role :=
  match fullUse? switches text with
  | some use => .ok (.switch use)
  | none =>
    if text.length = 1 then .ok .operand
    else
      let uses := if "--".toList.isPrefixOf text then longUses switches text else shortUses switches text
      match uses with
      | [use] => .ok (.switch use)
      | [] => .ok (if isNegativeNumber text || text.contains ' ' then .operand else .unknown)
      | uses => .error (.ambiguous (String.ofList text) (uses.map (·.name)))

/-- **What a word is** before a divider. -/
def roleOf (switches : List Switch) (text : String) : Except Misuse Role :=
  if text.toList.head? = some '-' then hyphenRole switches text.toList else .ok .operand

/-- **The words of a command line.**  After two hyphens, which divide it, every word is an operand. -/
def classify (switches : List Switch) : List String → Except Misuse (List Word)
  | [] => .ok []
  | text :: rest =>
    if text = "--" then .ok (⟨text, .divider⟩ :: rest.map (⟨·, .operand⟩))
    else do
      let role ← roleOf switches text
      return ⟨text, role⟩ :: (← classify switches rest)

end AuditTrail.CommandLine
