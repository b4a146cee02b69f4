import Criteria.Proofs.Settings.Keys
import Criteria.Settings.Basic

/-!
# Paths through layers

Layers that are laid over each other answer a path as a scan of them does, from the highest to the lowest. A
layer that has nothing on the way leaves the answer to those below; one that has a value at the path gives it;
one that has something else than a section on the way bars the path (`Entries.scan`, `at?_stack`). Layers have
to be well keyed for that, with no text twice among the keys of a section.
-/

namespace Criteria

namespace Entries

open Value (lookupKey)

/-! ## Laying one layer over another -/

@[simp] theorem cover_none (v : Value) : cover none v = v := by
  cases v <;> simp [cover]

/-- Under a text, an upper layer covers what a lower one has. -/
theorem lookupKey_overlay {upper : Entries} (hnames : (names upper).Nodup) (base : Entries)
    (n : String) :
    lookupKey (overlay base upper) n =
      match lookupKey upper n with
      | none => lookupKey base n
      | some v => some (cover (lookupKey base n) v) := by
  induction upper generalizing base with
  | nil => simp [overlay, lookupKey]
  | cons e rest ih =>
      obtain ⟨k, v⟩ := e
      rw [overlay, Value.lookupKey_cons]
      by_cases hk : k = .str n
      · -- The key is set here and, as keys do not repeat, not again.
        subst hk
        obtain ⟨hnot, hrest⟩ := List.nodup_cons.mp (show (n :: names rest).Nodup from hnames)
        rw [ih hrest, lookupKey_eq_none.mpr hnot, if_pos (Value.sameKey_str.mpr rfl)]
        simp only [Value.lookupKey_insertEntry_self]
        rfl
      · have hrest : (names rest).Nodup :=
          hnames.sublist ((List.sublist_cons_self _ _).filterMap _)
        rw [ih hrest, if_neg fun h => hk (Value.sameKey_str.mp h)]
        simp only [Value.lookupKey_insertEntry_of_ne _ _ hk]

end Entries

namespace Value

/-! ## Paths -/

/-- The value at the end of a path through sections. -/
def at? : Value → List String → Option Value
  | v, [] => some v
  | .map es, part :: rest => (lookupKey es part).bind fun v => at? v rest
  | _, _ :: _ => none

/-- One path after another leads where both in one lead. -/
theorem at?_append (v : Value) (p q : List String) :
    v.at? (p ++ q) = (v.at? p).bind fun w => w.at? q := by
  induction p generalizing v with
  | nil => simp [at?]
  | cons part rest ih =>
      cases v with
      | map es =>
          simp only [List.cons_append, at?]
          cases lookupKey es part with
          | none => rfl
          | some w => exact ih w
      | _ => rfl

/-- What a value has at a path. -/
inductive Found where
  | value (v : Value)
  /-- Something on the way is no section. -/
  | barred
  /-- A section on the way lacks the next part. -/
  | nothing

/-- What a value has at a path. -/
def found : Value → List String → Found
  | v, [] => .value v
  | .map es, part :: rest =>
    match lookupKey es part with
    | some v => found v rest
    | none => .nothing
  | _, _ :: _ => .barred

end Value

namespace Entries

open Value (lookupKey)

/-- A path leads to what a scan finds, and nowhere where the scan is barred. -/
theorem at?_eq_found (v : Value) (path : List String) :
    v.at? path =
      match v.found path with
      | .value w => some w
      | .barred | .nothing => none := by
  induction path generalizing v with
  | nil => simp [Value.at?, Value.found]
  | cons part rest ih =>
      cases v with
      | map es =>
          simp only [Value.at?, Value.found]
          cases lookupKey es part with
          | none => rfl
          | some w => exact ih w
      | _ => rfl

/-- At a path, the answer of a value that covers another is its own if it has one; it is that of the other if
it has nothing on the way, and none if it bars the path. -/
theorem at?_cover {upper : Value} (hupper : upper.WellKeyed) (old : Option Value) (path : List String) :
    (cover old upper).at? path =
      match upper.found path with
      | .value v => some (cover (old.bind fun w => w.at? path) v)
      | .barred => none
      | .nothing => old.bind fun w => w.at? path := by
  induction path generalizing old upper with
  | nil => simp [Value.at?, Value.found]
  | cons part rest ih =>
      cases upper with
      | map es =>
          by_cases hold : ∃ base, old = some (.map base)
          · obtain ⟨base, rfl⟩ := hold
            simp only [cover, Value.at?, Value.found, Option.bind_some,
              lookupKey_overlay (Value.wellKeyed_map.mp hupper).1]
            cases hv : lookupKey es part with
            | none => rfl
            | some v => exact ih (hupper.of_lookupKey hv) (lookupKey base part)
          · -- what is no section is dropped, and has no answer of its own
            have hdropped : cover old (.map es) = .map es := by
              unfold cover
              split
              · exact absurd ⟨_, rfl⟩ hold
              · rfl
            have hnone : (old.bind fun w => w.at? (part :: rest)) = none := by
              rcases old with _ | w
              · rfl
              · cases w with
                | map base => exact absurd ⟨base, rfl⟩ hold
                | _ => rfl
            rw [hdropped, hnone, at?_eq_found]
            cases (Value.map es).found (part :: rest) <;> simp
      | _ => simp [cover, Value.at?, Value.found]

/-! ## Scans -/

/-- The answer of layers to a path, from the highest to the lowest: the first that has a value at the path or
bars it decides. A section covers what the layers below it answer. -/
def scan (path : List String) : List Entries → Option Value
  | [] => none
  | layer :: below =>
    match (Value.map layer).found path with
    | .value v => some (cover (scan path below) v)
    | .barred => none
    | .nothing => scan path below

/-- **Layers are looked up by a scan.** At a path that is not empty, layers laid over each other have what a
scan from the last to the first finds. -/
theorem at?_stack {layers : List Entries} (hlayers : ∀ es ∈ layers, (Value.map es).WellKeyed)
    {path : List String} (hpath : path ≠ []) :
    (Value.map (stack layers)).at? path = scan path layers.reverse := by
  have hdown : ∀ top : List Entries, (∀ es ∈ top, (Value.map es).WellKeyed) →
      (Value.map (top.foldr (fun es below => overlay below es) [])).at? path = scan path top := by
    intro top htop
    induction top with
    | nil =>
        cases path with
        | nil => exact absurd rfl hpath
        | cons part rest => rfl
    | cons es below ih =>
        have hes := htop es List.mem_cons_self
        have hcover := at?_cover hes (some (.map (below.foldr (fun es b => overlay b es) []))) path
        rw [Option.bind_some, ih fun e he => htop e (List.mem_cons_of_mem _ he)] at hcover
        simp only [cover] at hcover
        rw [List.foldr_cons, hcover, scan]
  rw [← hdown layers.reverse (by simpa using hlayers), List.foldr_reverse]
  rfl

/-- What lies below a section is what the scans of longer paths find. -/
theorem at?_of_scan {layers : List Entries} (hlayers : ∀ es ∈ layers, (Value.map es).WellKeyed)
    {path : List String} (hpath : path ≠ []) {v : Value} (hv : scan path layers.reverse = some v)
    (more : List String) : v.at? more = scan (path ++ more) layers.reverse := by
  rw [← at?_stack hlayers hpath] at hv
  rw [← at?_stack hlayers (List.append_ne_nil_of_left_ne_nil hpath _), Value.at?_append, hv]
  rfl

end Entries
end Criteria
