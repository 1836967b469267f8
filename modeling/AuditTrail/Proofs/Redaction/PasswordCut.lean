import AuditTrail.Redaction

/-!
# Proofs/Redaction/PasswordCut — a text cut around its last quoted password

    … password = ' │ secret │ ' …
        before     password  after

A `PasswordCut` says where a password stands.  `cutAt?` reads one off a keyword at the front of a
text, `lastCut?` takes the last keyword of the text that has one; both recurse on the text alone,
without any search.  `holdsPassword` tells whether the keyword occurs at all.
-/

namespace AuditTrail

open AuditTrail.Text

/-- A test that fails on every character. -/
theorem eq_false_of_all_not {p : Char → Bool} {cs : List Char} (h : cs.all (!p ·) = true) :
    ∀ c ∈ cs, p c = false :=
  fun c hc => by simpa using List.all_eq_true.mp h c hc

/-! ## The keyword -/

/-- The text starts with a word, regardless of case. -/
def startsFold : (word cs : List Char) → Bool
  | [], _ => true
  | _ :: _, [] => false
  | x :: word, c :: cs => sameFold x c && startsFold word cs

/-- The keyword that announces a password. -/
def passwordWord : List Char := ['p', 'a', 's', 's', 'w', 'o', 'r', 'd']

/-- **The text starts with the keyword**, regardless of case. -/
def startsPassword (cs : List Char) : Bool := startsFold passwordWord cs

/-- **The keyword occurs in the text**, regardless of case. -/
def holdsPassword : List Char → Bool
  | [] => false
  | c :: rest => startsPassword (c :: rest) || holdsPassword rest

theorem startsPassword_cons_of_not {c : Char} (h : sameFold 'p' c = false) (cs : List Char) :
    startsPassword (c :: cs) = false := by
  rw [startsPassword, passwordWord, startsFold, h, Bool.false_and]

theorem startsFold_append {word k : List Char} (h : startsFold word k = true) (cs : List Char) :
    startsFold word (k ++ cs) = true := by
  induction word generalizing k with
  | nil => rfl
  | cons x word ih =>
    cases k with
    | nil => simp [startsFold] at h
    | cons c k =>
      simp only [startsFold, Bool.and_eq_true] at h
      simp only [List.cons_append, startsFold, h.1, ih h.2, Bool.and_self]

/-- A text that starts with a word has a character for each of the word's. -/
theorem startsFold_getElem? {word cs : List Char} (h : startsFold word cs = true) {i : Nat} {x : Char}
    (hx : word[i]? = some x) : ∃ c, cs[i]? = some c ∧ sameFold x c = true := by
  induction word generalizing cs i with
  | nil => simp at hx
  | cons y word ih =>
    cases cs with
    | nil => simp [startsFold] at h
    | cons c cs =>
      simp only [startsFold, Bool.and_eq_true] at h
      cases i with
      | zero =>
        obtain rfl : y = x := by simpa using hx
        exact ⟨c, rfl, h.1⟩
      | succ i => exact ih h.2 (by simpa using hx)

/-! ## Around the quotes -/

/-- The text without the blanks in front, one equals sign after them, and the blanks after that. -/
def skipEquals (cs : List Char) : List Char :=
  match cs.dropWhile isBlank with
  | '=' :: rest => rest.dropWhile isBlank
  | rest => rest

/-- The text up to the last single quote that no blank comes before, and the text from there on. -/
def closing? : List Char → Option (List Char × List Char)
  | [] => none
  | c :: rest =>
    if isBlank c then none
    else match closing? rest with
      | some (inside, after) => some (c :: inside, after)
      | none => if c = '\'' then some ([], c :: rest) else none

/-- **A text cut around a quoted password**: `before` ends in the opening quote, `after` starts with
the closing one. -/
structure PasswordCut where
  before : List Char
  password : List Char
  after : List Char
  deriving DecidableEq, Repr

namespace PasswordCut

/-- The text that is cut. -/
def text (x : PasswordCut) : List Char := x.before ++ x.password ++ x.after

/-- The text with the mask in place of the password. -/
def masked (mask : List Char) (x : PasswordCut) : List Char := x.before ++ mask ++ x.after

end PasswordCut

/-- **The password of the keyword in front of a text**: blanks and an equals sign may follow the
keyword, then an opening quote, at least one character, and the last quote before a blank. -/
def cutAt? (cs : List Char) : Option PasswordCut :=
  if startsPassword cs then
    match skipEquals (cs.drop 8) with
    | '\'' :: c :: rest =>
      if isBlank c then none
      else (closing? rest).map fun (inside, after) =>
        ⟨cs.take (cs.length - (rest.length + 1)), c :: inside, after⟩
    | _ => none
  else none

/-- **The password of the last keyword that has one.** -/
def lastCut? : List Char → Option PasswordCut
  | [] => none
  | c :: rest =>
    match lastCut? rest with
    | some x => some { x with before := c :: x.before }
    | none => cutAt? (c :: rest)

theorem cutAt?_of_not_starts {cs : List Char} (h : startsPassword cs = false) : cutAt? cs = none := by
  rw [cutAt?, h, if_neg Bool.false_ne_true]

/-! ## What the cuts keep -/

theorem skipEquals_suffix (cs : List Char) : skipEquals cs <:+ cs := by
  rw [skipEquals]
  split
  · rename_i rest h
    exact (List.dropWhile_suffix _).trans ((List.suffix_cons '=' rest).trans
      (h ▸ List.dropWhile_suffix _))
  · exact List.dropWhile_suffix _

/-- What `closing?` cuts off holds no blank, and the rest starts with a quote. -/
theorem eq_of_closing? {cs inside after : List Char} (h : closing? cs = some (inside, after)) :
    cs = inside ++ after ∧ (∀ c ∈ inside, isBlank c = false) ∧ ∃ rest, after = '\'' :: rest := by
  induction cs generalizing inside with
  | nil => simp [closing?] at h
  | cons c rest ih =>
    rw [closing?] at h
    split at h
    · simp at h
    rename_i hc
    have hblank : isBlank c = false := by simpa using hc
    split at h
    · rename_i i a hrest
      obtain ⟨rfl, rfl⟩ : c :: i = inside ∧ a = after := by simpa using h
      obtain ⟨rfl, hi, hq⟩ := ih hrest
      exact ⟨rfl, List.forall_mem_cons.mpr ⟨hblank, hi⟩, hq⟩
    · split at h
      · rename_i hquote
        obtain ⟨rfl, rfl⟩ : [] = inside ∧ c :: rest = after := by simpa using h
        exact ⟨rfl, fun _ hmem => absurd hmem List.not_mem_nil, rest, congrArg (· :: rest) hquote⟩
      · simp at h

/-- **How a cut looks**: `before` ends in a quote, `after` starts with one, and the password is not
empty and has no blank. -/
structure PasswordCut.Sound (x : PasswordCut) : Prop where
  opens : ∃ rest, x.before = rest ++ ['\'']
  closes : ∃ rest, x.after = '\'' :: rest
  ne_nil : x.password ≠ []
  solid : ∀ c ∈ x.password, isBlank c = false

/-- A cut at the front of a text is a cut of that text. -/
theorem cutAt?_sound {cs : List Char} {x : PasswordCut} (h : cutAt? cs = some x) :
    x.text = cs ∧ x.Sound := by
  rw [cutAt?] at h
  split at h
  case isFalse => simp at h
  split at h
  case h_2 => simp at h
  rename_i c rest hskip
  split at h
  · simp at h
  rename_i hc
  obtain ⟨⟨inside, after⟩, hclose, rfl⟩ := Option.map_eq_some_iff.mp h
  obtain ⟨rfl, hinside, hquote⟩ := eq_of_closing? hclose
  have hsuffix : '\'' :: c :: (inside ++ after) <:+ cs :=
    hskip ▸ (skipEquals_suffix _).trans (List.drop_suffix 8 cs)
  obtain ⟨front, rfl⟩ := hsuffix
  have htake : (front ++ '\'' :: c :: (inside ++ after)).take
      ((front ++ '\'' :: c :: (inside ++ after)).length - ((inside ++ after).length + 1))
        = front ++ ['\''] := by
    rw [show front ++ '\'' :: c :: (inside ++ after) = (front ++ ['\'']) ++ c :: (inside ++ after) by
      simp]
    exact List.take_left' (by simp; omega)
  refine ⟨?_, ⟨front, htake⟩, hquote, List.cons_ne_nil _ _, ?_⟩
  · simp only [PasswordCut.text, htake]
    simp
  · exact List.forall_mem_cons.mpr ⟨by simpa using hc, hinside⟩

/-- **The last cut of a text is a cut of that text.** -/
theorem lastCut?_sound {cs : List Char} {x : PasswordCut} (h : lastCut? cs = some x) :
    x.text = cs ∧ x.Sound := by
  induction cs generalizing x with
  | nil => simp [lastCut?] at h
  | cons c rest ih =>
    rw [lastCut?] at h
    split at h
    · rename_i y hy
      obtain rfl : { y with before := c :: y.before } = x := by simpa using h
      obtain ⟨htext, ⟨front, hopens⟩, hcloses, hne, hsolid⟩ := ih hy
      exact ⟨congrArg (c :: ·) htext, ⟨c :: front, congrArg (c :: ·) hopens⟩, hcloses, hne, hsolid⟩
    · exact cutAt?_sound h

end AuditTrail
