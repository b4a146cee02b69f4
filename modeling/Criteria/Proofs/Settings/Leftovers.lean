import Criteria.Proofs.Settings.Expansion

/-!
# What is left of placeholders

An expanded text is put together from characters that stand outside placeholders, values of variables and defaults,
and nothing is looked for again in what is put in. So no placeholder of a text is left, but a new one may come about:
a dollar sign and a brace come to stand side by side at a border of two pieces, or a default that was cut off at the
first closing brace has an opening one. `leftovers_explained` says that there is no other way.
-/

namespace Criteria

namespace Piece

/-! ## Openings in texts -/

/-- Whether a text has a placeholder: what opens one, a name and what closes it. -/
def HasPlaceholder (cs : List Char) : Prop :=
  ∃ before name after, cs = before ++ dollar :: opening :: name ++ closing :: after ∧ name ≠ [] ∧ closing ∉ name

/-- A placeholder begins where a dollar sign and a brace stand side by side. -/
theorem begins_iff {cs : List Char} : begins cs = true ↔ ∃ a b, cs = a ++ dollar :: opening :: b := by
  induction cs with
  | nil => simp [begins]
  | cons c rest ih =>
      rw [begins, Bool.or_eq_true, Bool.and_eq_true, beq_iff_eq, beq_iff_eq, ih]
      constructor
      · rintro (⟨rfl, hrest⟩ | ⟨a, b, rfl⟩)
        · obtain ⟨b, rfl⟩ := List.head?_eq_some_iff.mp hrest
          exact ⟨[], b, rfl⟩
        · exact ⟨c :: a, b, rfl⟩
      · rintro ⟨a, b, h⟩
        cases a with
        | nil =>
            obtain ⟨rfl, rfl⟩ := List.cons.inj h
            exact .inl ⟨rfl, rfl⟩
        | cons x a =>
            obtain ⟨rfl, rfl⟩ := List.cons.inj h
            exact .inr ⟨a, b, rfl⟩

/-- What follows an opening that is no part of a reference closes no reference. -/
theorem reference?_of_chars {cs : List Char} {before rest : List Piece}
    (h : parts cs = before ++ .char dollar :: .char opening :: rest) :
    reference? (rest.flatMap source) = none := by
  fun_induction parts cs generalizing before with
  | case1 => simp at h
  | case2 c =>
      cases before with
      | nil => simp at h
      | cons p before => simp at h
  | case3 c b after hcb name behind hname ih =>
      cases before with
      | nil => simp at h
      | cons p before => exact ih (List.cons.inj h).2
  | case4 c b after hcb hnone ih =>
      cases before with
      | nil =>
          -- The text behind the dollar sign is made up of the parts behind it.
          have hsource := congrArg (List.flatMap source) (List.cons.inj h).2
          rw [source_parts] at hsource
          have hafter : after = rest.flatMap source := (List.cons.inj hsource).2
          rw [← hafter]
          exact hnone
      | cons p before => exact ih (List.cons.inj h).2
  | case5 c b after hcb ih =>
      cases before with
      | nil =>
          have hsource := congrArg (List.flatMap source) (List.cons.inj h).2
          rw [source_parts] at hsource
          have hc : c = dollar := Piece.char.inj (List.cons.inj h).1
          exact absurd ⟨hc, (List.cons.inj hsource).1⟩ hcb
      | cons p before => exact ih (List.cons.inj h).2

theorem reference?_eq_some_of_closing {name rest : List Char} (hne : name ≠ []) (hname : closing ∉ name) :
    reference? (name ++ closing :: rest) = some (name, rest) := by
  have hinner : ∀ c ∈ name, isInner c = true := by
    intro c hc
    simpa [isInner] using fun h : c = closing => hname (h ▸ hc)
  have hstop : isInner closing = false := by decide
  rw [reference?, List.takeWhile_append_of_pos hinner, List.dropWhile_append_of_pos hinner,
    List.takeWhile_cons_of_neg (by simp [hstop]), List.dropWhile_cons_of_neg (by simp [hstop]), List.append_nil]
  cases name with
  | nil => exact absurd rfl hne
  | cons c more => rfl

end Piece

namespace Settings

open Piece (parts begins dollar opening closing HasPlaceholder)

/-! ## Openings in what is put together -/

namespace Fragment

/-- Whether a text with `a` before it and `b` behind it lies inside a piece. -/
def Inside (fs : List Fragment) (f : Fragment) (a cs b : List Char) : Prop :=
  ∃ before after x y, fs = before ++ f :: after ∧ f.chars = x ++ cs ++ y ∧
    a = before.flatMap chars ++ x ∧ b = y ++ after.flatMap chars

/-- Whether one piece ends and another begins between `a` and `b`. -/
def AtBorder (fs : List Fragment) (a b : List Char) : Prop :=
  ∃ before after, fs = before ++ after ∧ before.flatMap chars = a ∧ after.flatMap chars = b

theorem Inside.cons {fs : List Fragment} {f : Fragment} {a cs b : List Char} (h : Inside fs f a cs b)
    (g : Fragment) : Inside (g :: fs) f (g.chars ++ a) cs b := by
  obtain ⟨before, after, x, y, rfl, hf, rfl, rfl⟩ := h
  exact ⟨g :: before, after, x, y, rfl, hf, by simp, rfl⟩

theorem AtBorder.cons {fs : List Fragment} {a b : List Char} (h : AtBorder fs a b) (g : Fragment) :
    AtBorder (g :: fs) (g.chars ++ a) b := by
  obtain ⟨before, after, rfl, rfl, rfl⟩ := h
  exact ⟨g :: before, after, rfl, by simp, rfl⟩

/-- Two characters side by side stand in one piece or on both sides of a border. -/
theorem inside_or_atBorder {fs : List Fragment} {a b : List Char} {x y : Char}
    (h : fs.flatMap chars = a ++ x :: y :: b) :
    (∃ f ∈ fs, Inside fs f a [x, y] b) ∨ AtBorder fs (a ++ [x]) (y :: b) := by
  induction fs generalizing a with
  | nil => simp at h
  | cons f rest ih =>
      have hlater : ∀ a', rest.flatMap chars = a' ++ x :: y :: b →
          (∃ g ∈ f :: rest, Inside (f :: rest) g (f.chars ++ a') [x, y] b) ∨
            AtBorder (f :: rest) (f.chars ++ a' ++ [x]) (y :: b) := by
        intro a' hrest
        rcases ih hrest with ⟨g, hg, hinside⟩ | hborder
        · exact .inl ⟨g, List.mem_cons_of_mem _ hg, hinside.cons f⟩
        · right
          rw [List.append_assoc]
          exact hborder.cons f
      rw [List.flatMap_cons] at h
      -- The two stand behind the first piece, across its end, or inside it.
      rcases List.append_eq_append_iff.mp h with ⟨a', rfl, hrest⟩ | ⟨c, hf, hrest⟩
      · exact hlater a' hrest
      · rcases c with _ | ⟨c, _ | ⟨d, w⟩⟩
        · have hbehind := hlater [] hrest.symm
          rw [List.append_nil] at hf
          rw [List.append_nil, hf] at hbehind
          exact hbehind
        · simp only [List.cons_append, List.nil_append, List.cons.injEq] at hrest
          obtain ⟨rfl, hbehind⟩ := hrest
          exact .inr ⟨[f], rest, rfl, by simp [hf], hbehind.symm⟩
        · simp only [List.cons_append, List.cons.injEq] at hrest
          obtain ⟨rfl, rfl, rfl⟩ := hrest
          exact .inl ⟨f, List.mem_cons_self, [], rest, a, w, rfl, by simp [hf], rfl, rfl⟩

/-- Where the values of variables have no openings, they are only in defaults and at borders. -/
theorem opening_cases {fs : List Fragment}
    (hvariables : ∀ value, .environment value ∈ fs → begins value.toList = false) {a b : List Char}
    (h : fs.flatMap chars = a ++ dollar :: opening :: b) :
    (∃ text, Inside fs (.fallback text) a [dollar, opening] b) ∨ AtBorder fs (a ++ [dollar]) (opening :: b) := by
  rcases inside_or_atBorder h with ⟨f, hmem, hinside⟩ | hborder
  · cases f with
    | char c =>
        obtain ⟨before, after, x, y, -, hf, -⟩ := hinside
        have hlength := congrArg List.length hf
        simp only [chars, List.length_append, List.length_cons, List.length_nil] at hlength
        omega
    | environment value =>
        obtain ⟨before, after, x, y, -, hf, -⟩ := hinside
        have hbegins : begins value.toList = true := Piece.begins_iff.mpr ⟨x, y, by simpa [chars] using hf⟩
        rw [hvariables value hmem] at hbegins
        cases hbegins
    | fallback text => exact .inl ⟨text, hinside⟩
  · exact .inr hborder

/-- A text that ends in a character was ended by a piece that does. -/
theorem exists_of_getLast? {fs : List Fragment} {c : Char} (h : (fs.flatMap chars).getLast? = some c) :
    ∃ f ∈ fs, f.chars.getLast? = some c := by
  induction fs with
  | nil => cases h
  | cons f rest ih =>
      rw [List.flatMap_cons, List.getLast?_append] at h
      cases hrest : (rest.flatMap chars).getLast? with
      | none =>
          rw [hrest] at h
          exact ⟨f, List.mem_cons_self, h⟩
      | some d =>
          rw [hrest] at h
          obtain ⟨g, hg, hlast⟩ := ih (hrest.trans h)
          exact ⟨g, List.mem_cons_of_mem _ hg, hlast⟩

/-- Where no piece ends in a dollar sign and no default has an opening, there is none. -/
theorem begins_eq_false {fs : List Fragment}
    (hvariables : ∀ value, .environment value ∈ fs → begins value.toList = false)
    (hfallbacks : ∀ text, .fallback text ∈ fs → begins text = false)
    (hends : ∀ f ∈ fs, f.chars.getLast? ≠ some dollar) : begins (fs.flatMap chars) = false := by
  rw [Bool.eq_false_iff]
  intro hbegins
  obtain ⟨a, b, h⟩ := Piece.begins_iff.mp hbegins
  rcases opening_cases hvariables h with ⟨text, before, after, x, y, rfl, htext, -⟩ | ⟨before, after, rfl, ha, -⟩
  · have hopening : begins text = true := Piece.begins_iff.mpr ⟨x, y, by simpa [chars] using htext⟩
    rw [hfallbacks text (by simp)] at hopening
    cases hopening
  · obtain ⟨f, hf, hlast⟩ := @exists_of_getLast? before dollar (by rw [ha, List.getLast?_concat])
    exact hends f (List.mem_append_left _ hf) hlast

end Fragment

/-! ## Answers -/

theorem mem_environment_of_target {s : Settings} {r : List Char} {value : String}
    (h : s.target r = .environment value) :
    (String.ofList (Piece.split r).1, value) ∈ s.environment := by
  rw [target] at h
  cases hlookup : s.environment.lookup (String.ofList (Piece.split r).1) with
  | some found =>
      rw [hlookup] at h
      cases h
      obtain ⟨before, after, henvironment, -⟩ := List.lookup_eq_some_iff.mp hlookup
      rw [henvironment]
      exact List.mem_append_right _ List.mem_cons_self
  | none =>
      rw [hlookup] at h
      dsimp only at h
      split at h <;> cases h

/-- What is put in for variables are values of variables. -/
theorem Expands.exists_mem_environment {s : Settings} {ps : List Piece} {fs : List Fragment} (h : s.Expands ps fs)
    {value : String} (hvalue : .environment value ∈ fs) : ∃ name, (name, value) ∈ s.environment := by
  induction h with
  | nil => cases hvalue
  | char _ ih | fallback _ _ ih =>
      rcases List.mem_cons.mp hvalue with hhead | hlater
      · cases hhead
      · exact ih hlater
  | environment htarget _ ih =>
      rcases List.mem_cons.mp hvalue with hhead | hlater
      · cases hhead
        exact ⟨_, mem_environment_of_target htarget⟩
      · exact ih hlater
  | stored _ _ _ ihvalue ih =>
      rcases List.mem_append.mp hvalue with hhere | hlater
      · exact ihvalue hhere
      · exact ih hlater

/-- An answer that is made up of fragments has no openings but those that the pieces bring about. -/
structure Explained (s : Settings) (text : String) (fs : List Fragment) : Prop where
  /-- All references have been replaced. -/
  expands : s.Expands (parts text.toList) fs
  /-- In the texts that are reached nothing outside the references is a placeholder. -/
  replaced : ∀ reached, Relation.ReflTransGen s.Leads text reached →
    ∀ before rest, parts reached.toList = before ++ .char dollar :: .char opening :: rest →
      ∀ name after, rest.flatMap Piece.source = name ++ closing :: after → name ≠ [] → closing ∈ name
  /-- An opening stands inside a default or came about at a border of two pieces. -/
  openings : ∀ a b, fs.flatMap Fragment.chars = a ++ dollar :: opening :: b →
    (∃ default, Fragment.Inside fs (.fallback default) a [dollar, opening] b) ∨
      Fragment.AtBorder fs (a ++ [dollar]) (opening :: b)
  /-- There is none if no default has one and no piece ends in a dollar sign. -/
  closed : (∀ default, .fallback default ∈ fs → begins default = false) →
    (∀ f ∈ fs, f.chars.getLast? ≠ some dollar) → begins (fs.flatMap Fragment.chars) = false

/-- **Placeholders are replaced or refused.** If no value of a variable has an opening, the answer for a key with a
text is a fault or made up of pieces such that an opening in it stands inside a default or came about where two
pieces meet. -/
theorem leftovers_explained (s : Settings) (key text : String) (default : Value) (hstored : s.lookup key = .str text)
    (hvariable : s.environment.lookup (variableName key) = none)
    (henvironment : ∀ v ∈ s.environment, begins v.2.toList = false) :
    (∃ f, s.get key default = .error f ∧ f.kind = .wrongValue) ∨
      ∃ fs, s.get key default = .ok (.str (Fragment.text fs)) ∧ s.Explained text fs := by
  rw [get_of_text hstored hvariable]
  cases hexpand : s.expand text with
  | error f => exact .inl ⟨f, rfl, kind_of_expandWithin hexpand⟩
  | ok result =>
      obtain ⟨fs, hfs, rfl⟩ := expands_of_expandWithin hexpand
      have hvariables : ∀ value, .environment value ∈ fs → begins value.toList = false := by
        intro value hvalue
        obtain ⟨name, hname⟩ := hfs.exists_mem_environment hvalue
        exact henvironment _ hname
      refine .inr ⟨fs, rfl, hfs, ?_, ?_, ?_⟩
      · intro reached _ before rest hparts name after hrest hname
        -- With a closing brace behind it the opening would have been read as a reference.
        by_contra hclosing
        have hnone := Piece.reference?_of_chars hparts
        rw [hrest, Piece.reference?_eq_some_of_closing hname hclosing] at hnone
        cases hnone
      · intro a b h
        exact Fragment.opening_cases hvariables h
      · intro hfallbacks hends
        exact Fragment.begins_eq_false hvariables hfallbacks hends

/-- Settings with the address of a service. -/
def serviceAddress : Settings where
  entries := [(.str "url", .str "$\x7bHOST:db\x7d:$\x7bport\x7d"), (.str "port", .int 1)]
  environment := [("USER", "ann")]

/-- In an address made of a default and a number no opening is left. -/
theorem serviceAddress_closed :
    ∃ fs, serviceAddress.get "url" .null = .ok (.str (Fragment.text fs)) ∧ Fragment.text fs = "db:1" ∧
      begins (fs.flatMap Fragment.chars) = false := by
  have hparts : parts "$\x7bHOST:db\x7d:$\x7bport\x7d".toList =
      [.reference "HOST:db".toList, .char ':', .reference "port".toList] := by
    decide +kernel
  have hport : serviceAddress.Expands (parts "1".toList) [.char '1'] := by
    rw [Piece.parts_eq_map_char (by decide)]
    exact expands_chars ['1']
  have hpieces : serviceAddress.Expands (parts "$\x7bHOST:db\x7d:$\x7bport\x7d".toList)
      [.fallback "db".toList, .char ':', .char '1'] := by
    rw [hparts]
    exact .fallback rfl (.char (.stored (v := .int 1) rfl hport .nil))
  rcases leftovers_explained serviceAddress "url" "$\x7bHOST:db\x7d:$\x7bport\x7d" .null rfl (by decide +kernel)
    (by decide +kernel) with ⟨f, hf, -⟩ | ⟨fs, hfs, hexplained⟩
  · have hanswers : (serviceAddress.get "url" .null).toOption.isSome := by decide +kernel
    rw [hf] at hanswers
    cases hanswers
  · have hsame := hexplained.expands.unique hpieces
    subst hsame
    have hdefault : begins ['d', 'b'] = false := by decide
    exact ⟨_, hfs, rfl, hexplained.closed (by simpa using hdefault) (by decide)⟩

/-- Whether the texts that are got have no placeholders left. -/
def NoneLeft (s : Settings) : Prop :=
  ∀ key text default result, s.lookup key = .str text → s.environment.lookup (variableName key) = none →
    s.get key default = .ok (.str result) → ¬ HasPlaceholder result.toList

/-- Settings with a dollar sign in front of a placeholder. -/
def adjoiningDollar : Settings where
  entries := [(.str "a", .str "$$\x7bA\x7d")]
  environment := [("A", "\x7bB\x7d")]

/-- Settings with a placeholder in a default. -/
def nestedDefault : Settings where
  entries := [(.str "a", .str "$\x7bA:$\x7bB\x7d\x7d")]

/-- An answer that shows a placeholder has one left over. -/
theorem not_noneLeft_of_expand {s : Settings} {key text result : String} (hstored : s.lookup key = .str text)
    (hvariable : s.environment.lookup (variableName key) = none)
    (hexpand : (s.expand text).toOption = some result) (hleft : HasPlaceholder result.toList) : ¬ s.NoneLeft := by
  intro h
  refine h key text .null result hstored hvariable ?_ hleft
  rw [get_of_text hstored hvariable]
  cases hresult : s.expand text with
  | error f => simp [hresult, Except.toOption] at hexpand
  | ok found =>
      rw [hresult] at hexpand
      cases hexpand
      rfl

/-- An opening may come about at a border between two pieces, or stand in a default. -/
theorem placeholder_left :
    ((∀ v ∈ adjoiningDollar.environment, begins v.2.toList = false) ∧ ¬ adjoiningDollar.NoneLeft) ∧
      (∀ v ∈ nestedDefault.environment, begins v.2.toList = false) ∧ ¬ nestedDefault.NoneLeft := by
  have hleft : HasPlaceholder "$\x7bB\x7d".toList := ⟨[], ['B'], [], rfl, by decide, by decide⟩
  exact ⟨⟨by decide, @not_noneLeft_of_expand _ "a" _ _ rfl (by decide +kernel) (by decide +kernel) hleft⟩,
    by decide, @not_noneLeft_of_expand _ "a" _ _ rfl (by decide +kernel) (by decide +kernel) hleft⟩

end Settings
end Criteria
