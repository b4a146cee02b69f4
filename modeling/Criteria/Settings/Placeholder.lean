/-!
# Placeholders

A placeholder stands in a text as a dollar sign with a reference in braces. A reference has at least
one character and none of them closes the brace. The text splits into characters and references from
left to right; nothing inside a reference is looked at again.
-/

namespace Criteria

/-- A part of a text with placeholders. -/
inductive Piece where
  | char (c : Char)
  | reference (name : List Char)
  deriving DecidableEq, Repr

namespace Piece

def dollar : Char := '$'
def opening : Char := '\x7b'
def closing : Char := '\x7d'

/-- The text that a part was read from. -/
def source : Piece → List Char
  | .char c => [c]
  | .reference name => dollar :: opening :: name ++ [closing]

/-- Whether a character can stand in a reference. -/
def isInner (c : Char) : Bool := c != closing

/-- A reference at the start of what follows an opening brace, and the rest behind it. -/
def reference? (cs : List Char) : Option (List Char × List Char) :=
  match cs.takeWhile isInner, cs.dropWhile isInner with
  | [], _ => none
  | _ :: _, [] => none
  | name, _ :: rest => some (name, rest)

theorem reference?_eq_some {cs name rest : List Char} (h : reference? cs = some (name, rest)) :
    cs = name ++ closing :: rest := by
  have split := List.takeWhile_append_dropWhile (p := isInner) (l := cs)
  have stop := List.head?_dropWhile_not isInner cs
  unfold reference? at h
  revert h stop split
  cases cs.takeWhile isInner with
  | nil => intro h _ _; cases h
  | cons a t =>
    cases cs.dropWhile isInner with
    | nil => intro h _ _; cases h
    | cons c behind =>
      intro h split stop
      have hc : c = closing := by simpa [isInner] using stop
      simp only [Option.some.injEq, Prod.mk.injEq] at h
      obtain ⟨rfl, rfl⟩ := h
      rw [← split, hc]

theorem length_of_reference? {cs name rest : List Char}
    (h : reference? cs = some (name, rest)) : rest.length < cs.length := by
  rw [reference?_eq_some h]
  simp
  omega

def parts : List Char → List Piece
  | [] => []
  | c :: rest =>
    match rest with
    | [] => [.char c]
    | b :: after =>
      if c = dollar ∧ b = opening then
        match _ : reference? after with
        | some (name, behind) => .reference name :: parts behind
        | none => .char c :: parts (b :: after)
      else .char c :: parts (b :: after)
termination_by cs => cs.length
decreasing_by
  all_goals simp_wf
  have := length_of_reference? (by assumption)
  omega

/-- Nothing of a text is lost. -/
theorem source_parts (cs : List Char) : (parts cs).flatMap source = cs := by
  fun_induction parts cs with
  | case1 => rfl
  | case2 c => simp [source]
  | case3 c b after hcb name behind h ih =>
    obtain ⟨rfl, rfl⟩ := hcb
    simp [source, ih, reference?_eq_some h]
  | case4 c b after hcb h ih => simp [source, ih]
  | case5 c b after hcb ih => simp [source, ih]

/-- Whether a placeholder begins anywhere in a text. -/
def begins : List Char → Bool
  | [] => false
  | c :: rest => (c == dollar && rest.head? == some opening) || begins rest

/-- A reference split at its first colon: the name and, where there is one, the default. -/
def split (reference : List Char) : List Char × Option (List Char) :=
  let name := reference.takeWhile (· ≠ ':')
  match reference.dropWhile (· ≠ ':') with
  | [] => (name, none)
  | _ :: default => (name, some default)

end Piece
end Criteria
