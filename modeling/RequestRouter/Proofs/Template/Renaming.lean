import Mathlib.Tactic
import RequestRouter.Proofs.Template.Verdict

/-!
# Templates that differ in names only

The names of its variables are all that a template keeps of them besides the patterns, and no name comes
into its expression. So two templates with the same literal text and the same patterns, of which one may
leave out what the other spells out, are the same but for their names, whatever characters these have.

Both are compiled side by side: the texts are cut at different places, but into pieces that correspond, and
each piece adds the same to both drafts, or fails in both.

* `Slot`, `Wording`: a template as it is written down. `Proper.split?_text`: the pieces of its text, and
  `exists_proper`: all texts are written so whose braces are balanced and whose names are proper.
* `Agree`: two results agree, step by step.
* `compile_agree`: **templates that differ in names only** are compiled to templates that do, or both are
  refused.
* `matchVars?_rename`, `build_rename`: such templates match and build the same.
* `same_up_to_names`: **names mean nothing**, and neither does spelling out the default pattern.
-/

namespace RequestRouter

/-- The error that says the same of a variable with another name. -/
def RouterError.rename (newName : String → String) : RouterError → RouterError
  | .missingRouteVariable name => .missingRouteVariable (newName name)
  | .invalidRouteVariable name value pattern => .invalidRouteVariable (newName name) value pattern
  | e => e

namespace Template

/-! ### Templates as they are written -/

/-- A variable as it is written, with the literal text after it. -/
structure Slot where
  name : List Char
  /-- None if it is left out. -/
  pattern : Option (List Char)
  after : List Char

/-- A template as it is written: literal text, and variables with what follows each. -/
structure Wording where
  start : List Char
  slots : List Slot

namespace Slot

/-- What is between the braces of a variable. -/
def body (slot : Slot) : List Char :=
  match slot.pattern with
  | none => slot.name
  | some pattern => slot.name ++ ':' :: pattern

/-- The pattern that a variable has in effect. -/
def effective (default : String) (slot : Slot) : String :=
  (slot.pattern.map String.ofList).getD default

/-- The pieces of a variable and of what follows it. -/
def pieces (slot : Slot) : List Piece :=
  .braced slot.body :: Piece.literalOf slot.after.reverse

/-- A variable that can be read back: its name is not empty, has no colon and balanced braces, as the
pattern has if there is one, and the text after it has no braces. -/
@[mk_iff]
structure Proper (slot : Slot) : Prop where
  name_ne : slot.name ≠ []
  no_colon : ':' ∉ slot.name
  name_balanced : Balanced slot.name
  pattern_balanced : ∀ pattern ∈ slot.pattern, Balanced pattern
  no_open : '{' ∉ slot.after
  no_close : '}' ∉ slot.after

instance (slot : Slot) : Decidable slot.Proper :=
  decidable_of_iff _ (proper_iff slot).symm

variable {slot : Slot}

theorem Proper.balanced (h : slot.Proper) : Balanced slot.body := by
  have hname := balanced_iff.1 h.name_balanced
  unfold body
  cases hpattern : slot.pattern with
  | none => exact h.name_balanced
  | some pattern =>
    have hpattern := balanced_iff.1 (h.pattern_balanced pattern hpattern)
    simp only
    rw [balanced_iff, levelAfter?_append, hname, Option.bind_some,
      levelAfter?_of_ne (by decide) (by decide), hpattern]

/-- **A variable is read back**, with its pattern in effect. -/
theorem Proper.nameAndPattern_body (h : slot.Proper) (default : String) :
    nameAndPattern default slot.body = (.ofList slot.name, slot.effective default) := by
  unfold nameAndPattern body effective
  cases slot.pattern with
  | none =>
    simp only
    rw [Text.splitFirst_of_not_mem h.no_colon]
  | some pattern =>
    simp only
    rw [Text.splitFirst_append h.no_colon]

/-- A part in braces is a variable as it is written, if its name is not empty and has balanced braces. -/
theorem exists_of_body {default : String} {body after : List Char} (hbody : Balanced body)
    (hname : nameOf default body ≠ "" ∧ Balanced (nameOf default body).toList) (hopen : '{' ∉ after)
    (hclose : '}' ∉ after) : ∃ slot : Slot, slot.Proper ∧ slot.body = body ∧ slot.after = after := by
  obtain ⟨hne, hbalanced⟩ := hname
  unfold nameOf at hne hbalanced
  rcases splitAtColon default body with ⟨hcolon, hread⟩ | ⟨name, pattern, rfl, hcolon, hread⟩
  · rw [hread] at hne
    refine ⟨⟨body, none, after⟩, ⟨?_, hcolon, hbody, nofun, hopen, hclose⟩, rfl, rfl⟩
    rintro rfl
    exact hne rfl
  · rw [hread] at hne hbalanced
    rw [String.toList_ofList] at hbalanced
    refine ⟨⟨name, some pattern, after⟩, ⟨?_, hcolon, hbalanced, ?_, hopen, hclose⟩, rfl, rfl⟩
    · rintro rfl
      exact hne rfl
    · rintro _ ⟨⟩
      rwa [balanced_iff, levelAfter?_append, balanced_iff.1 hbalanced, Option.bind_some,
        levelAfter?_of_ne (by decide) (by decide), ← balanced_iff] at hbody

end Slot

namespace Wording

/-- The text of a template. -/
def text (w : Wording) : String :=
  .ofList (w.start ++ w.slots.flatMap fun slot => '{' :: slot.body ++ '}' :: slot.after)

/-- The names of its variables. -/
def names (w : Wording) : List String :=
  w.slots.map fun slot => .ofList slot.name

/-- Its pieces. -/
def pieces (w : Wording) : List Piece :=
  Piece.literalOf w.start.reverse ++ w.slots.flatMap Slot.pieces

/-- A template that can be read back, and whose names are different from each other and from those that are
reserved. -/
@[mk_iff]
structure Proper (reserved : List String) (w : Wording) : Prop where
  no_open : '{' ∉ w.start
  no_close : '}' ∉ w.start
  slots : ∀ slot ∈ w.slots, slot.Proper
  names_nodup : w.names.Nodup
  names_free : ∀ name ∈ w.names, name ∉ reserved

instance (reserved : List String) (w : Wording) : Decidable (w.Proper reserved) :=
  decidable_of_iff _ (proper_iff reserved w).symm

variable {w : Wording} {slots : List Slot} {reserved : List String}

theorem apart_slots (slots : List Slot) (next : List Char) :
    (slots.flatMap Slot.pieces).head? ≠ some (.literal next) := by
  cases slots <;> simp [Slot.pieces]

theorem grammar_slots (h : ∀ slot ∈ slots, slot.Proper) :
    Piece.Grammar (slots.flatMap Slot.pieces) := by
  induction slots with
  | nil => exact .nil
  | cons slot slots ih =>
    obtain ⟨hslot, hslots⟩ := List.forall_mem_cons.1 h
    rw [List.flatMap_cons, Slot.pieces, List.cons_append]
    refine .braced hslot.balanced (Piece.grammar_literalOf ?_ ?_ (ih hslots) (apart_slots slots))
    · rw [List.mem_reverse]
      exact hslot.no_open
    · rw [List.mem_reverse]
      exact hslot.no_close

theorem text_slots (slots : List Slot) : (slots.flatMap Slot.pieces).flatMap Piece.text =
    slots.flatMap fun slot => '{' :: slot.body ++ '}' :: slot.after := by
  induction slots with
  | nil => rfl
  | cons slot slots ih =>
    rw [List.flatMap_cons, List.flatMap_append, ih, List.flatMap_cons, Slot.pieces, List.flatMap_cons,
      Piece.flatMap_text_literalOf, List.reverse_reverse]
    simp [Piece.text]

/-- **The pieces of the text** of a template are what was written. -/
theorem Proper.split?_text (h : w.Proper reserved) :
    Piece.split? w.text.toList = some w.pieces := by
  refine Piece.split?_eq_some_iff.2 ⟨?_, ?_⟩
  · refine Piece.grammar_literalOf ?_ ?_ (grammar_slots h.slots) (apart_slots w.slots)
    · rw [List.mem_reverse]
      exact h.no_open
    · rw [List.mem_reverse]
      exact h.no_close
  · unfold pieces text
    rw [List.flatMap_append, text_slots, Piece.flatMap_text_literalOf, List.reverse_reverse,
      String.toList_ofList]

theorem body?_literalOf (cs : List Char) : (Piece.literalOf cs).filterMap Piece.body? = [] := by
  unfold Piece.literalOf
  split <;> rfl

theorem bodies (w : Wording) : w.pieces.filterMap Piece.body? = w.slots.map Slot.body := by
  unfold pieces
  rw [List.filterMap_append, body?_literalOf, List.nil_append]
  induction w.slots with
  | nil => rfl
  | cons slot slots ih =>
    rw [List.flatMap_cons, List.filterMap_append, ih, List.map_cons, Slot.pieces, List.filterMap_cons,
      body?_literalOf]
    rfl

theorem names_of_bodies (h : ∀ slot ∈ w.slots, slot.Proper) (default : String) :
    (w.slots.map Slot.body).map (nameOf default) = w.names := by
  rw [List.map_map]
  refine List.map_congr_left fun slot hslot => ?_
  exact congrArg Prod.fst ((h slot hslot).nameAndPattern_body default)

theorem Proper.names_eq (h : w.Proper reserved) (default : String) :
    (w.pieces.filterMap Piece.body?).map (nameOf default) = w.names := by
  rw [bodies, names_of_bodies h.slots]

theorem exists_of_grammar {default : String} {pieces : List Piece} (h : Piece.Grammar pieces)
    (hnames : ∀ body ∈ pieces.filterMap Piece.body?,
      nameOf default body ≠ "" ∧ Balanced (nameOf default body).toList) :
    ∃ w : Wording, '{' ∉ w.start ∧ '}' ∉ w.start ∧ (∀ slot ∈ w.slots, slot.Proper) ∧
      w.slots.map Slot.body = pieces.filterMap Piece.body? ∧
      w.text = .ofList (pieces.flatMap Piece.text) := by
  induction h with
  | nil => exact ⟨⟨[], []⟩, List.not_mem_nil, List.not_mem_nil, nofun, rfl, rfl⟩
  | @literal text pieces _ hopen hclose _ _ ih =>
    obtain ⟨w, hopen', hclose', hslots, hbodies, htext⟩ := ih hnames
    -- no variable stands before this text yet, so it goes to the start
    refine ⟨⟨text ++ w.start, w.slots⟩, ?_, ?_, hslots, hbodies, ?_⟩
    · exact List.not_mem_append hopen hopen'
    · exact List.not_mem_append hclose hclose'
    · rw [Wording.text, String.ofList_inj] at htext ⊢
      rw [List.flatMap_cons, List.append_assoc, htext]
      rfl
  | @braced body pieces hbody _ ih =>
    obtain ⟨hname, hothers⟩ := List.forall_mem_cons.1 hnames
    obtain ⟨w, hopen, hclose, hslots, hbodies, htext⟩ := ih hothers
    obtain ⟨slot, hslot, rfl, hafter⟩ := Slot.exists_of_body hbody hname hopen hclose
    refine ⟨⟨[], slot :: w.slots⟩, List.not_mem_nil, List.not_mem_nil, ?_, ?_, ?_⟩
    · exact List.forall_mem_cons.2 ⟨hslot, hslots⟩
    · rw [List.map_cons, hbodies]
      rfl
    · rw [Wording.text, String.ofList_inj] at htext ⊢
      rw [List.flatMap_cons, List.flatMap_cons, ← htext, hafter]
      simp [Piece.text]

/-- **Every text is written so** that has balanced braces and whose names are as they have to be. -/
theorem exists_proper {default text : String} {pieces : List Piece}
    (hsplit : Piece.split? text.toList = some pieces)
    (hnames : ∀ body ∈ pieces.filterMap Piece.body?,
      nameOf default body ≠ "" ∧ Balanced (nameOf default body).toList)
    (hnodup : ((pieces.filterMap Piece.body?).map (nameOf default)).Nodup)
    (hfree : ∀ name ∈ (pieces.filterMap Piece.body?).map (nameOf default), name ∉ reserved) :
    ∃ w : Wording, w.Proper reserved ∧ w.text = text := by
  obtain ⟨hgrammar, htext⟩ := Piece.split?_eq_some_iff.1 hsplit
  obtain ⟨w, hopen, hclose, hslots, hbodies, hw⟩ := exists_of_grammar hgrammar hnames
  rw [← hbodies, names_of_bodies hslots] at hnodup hfree
  refine ⟨w, ⟨hopen, hclose, hslots, hnodup, hfree⟩, ?_⟩
  rw [hw, htext, String.ofList_toList]

end Wording

/-! ### Results that agree -/

/-- Two results agree: both are errors, or both are values that are related. -/
inductive Agree {α β : Type} (R : α → β → Prop) : Except RouterError α → Except RouterError β → Prop
  | ok {a : α} {b : β} (h : R a b) : Agree R (.ok a) (.ok b)
  | error {e e' : RouterError} : Agree R (.error e) (.error e')

namespace Agree

variable {α β γ δ : Type} {R : α → β → Prop} {S : γ → δ → Prop} {x : Except RouterError α}
  {y : Except RouterError β}

/-- **One step after another**: what follows agree on related values. -/
theorem bind {f : α → Except RouterError γ} {g : β → Except RouterError δ} (h : Agree R x y)
    (hfg : ∀ a b, R a b → Agree S (f a) (g b)) : Agree S (x >>= f) (y >>= g) := by
  cases h with
  | ok hab => exact hfg _ _ hab
  | error => exact .error

theorem map {f : α → γ} {g : β → δ} (h : Agree R x y) (hfg : ∀ a b, R a b → S (f a) (g b)) :
    Agree S (x.map f) (y.map g) := by
  cases h with
  | ok hab => exact .ok (hfg _ _ hab)
  | error => exact .error

theorem mapM {f g : γ → Except RouterError α} (h : ∀ c, Agree Eq (f c) (g c)) (cs : List γ) :
    Agree Eq (cs.mapM f) (cs.mapM g) := by
  induction cs with
  | nil => exact .ok rfl
  | cons c cs ih =>
    rw [List.mapM_cons, List.mapM_cons]
    refine (h c).bind ?_
    rintro a _ rfl
    refine ih.bind ?_
    rintro as _ rfl
    exact .ok rfl

theorem exists_ok_iff (h : Agree R x y) : (∃ a, x = .ok a) ↔ ∃ b, y = .ok b := by
  cases h with
  | ok => exact ⟨fun _ => ⟨_, rfl⟩, fun _ => ⟨_, rfl⟩⟩
  | error => exact ⟨nofun, nofun⟩

theorem related {a : α} {b : β} (h : Agree R x y) (hx : x = .ok a) (hy : y = .ok b) : R a b := by
  cases h with
  | ok hab =>
    cases hx
    cases hy
    exact hab
  | error => cases hx

end Agree

/-! ### Two templates side by side -/

/-- A variable with another name. -/
def Variable.rename (newName : String → String) (v : Variable) : Variable :=
  { v with name := newName v.name }

/-- The template with other names for its variables, as if it had been compiled from another text. -/
def rename (newName : String → String) (text : String) (t : Template) : Template :=
  { t with text := text, vars := t.vars.map (Variable.rename newName) }

/-- A draft with other names for its variables. -/
def Draft.rename (newName : String → String) (draft : Draft) : Draft :=
  { draft with vars := draft.vars.map fun v => (newName v.1, v.2) }

/-- Two pieces differ in the name of a variable only. -/
inductive Piece.Renamed (default : String) (newName : String → String) : Piece → Piece → Prop
  | literal (text : List Char) : Renamed default newName (.literal text) (.literal text)
  | braced {body body' : List Char} (hname : nameOf default body' = newName (nameOf default body))
    (hpattern : (nameAndPattern default body').2 = (nameAndPattern default body).2) :
    Renamed default newName (.braced body) (.braced body')

/-- Two variables have the same pattern in effect and the same text after them. -/
structure Slot.Renamed (default : String) (newName : String → String) (slot slot' : Slot) : Prop where
  name : String.ofList slot'.name = newName (.ofList slot.name)
  pattern : slot'.effective default = slot.effective default
  after : slot'.after = slot.after

/-- **Two templates differ in names only**: they have the same literal text and the same patterns in
effect, and the variables of one have new names in the other. -/
structure Wording.Renamed (default : String) (newName : String → String) (w w' : Wording) : Prop where
  start : w'.start = w.start
  slots : List.Forall₂ (Slot.Renamed default newName) w.slots w'.slots

variable {default text text' : String} {newName : String → String} {w w' : Wording}
  {reserved reserved' names names' : List String} {draft : Draft} {pieces pieces' : List Piece}
  {body : List Char} {isPrefix : Bool} {t : Template}

theorem Wording.Renamed.names_eq (h : w.Renamed default newName w') :
    w'.names = w.names.map newName := by
  unfold Wording.names
  rw [List.map_map]
  exact (map_eq_map (h.slots.imp fun _ _ hslot => hslot.name.symm)).symm

theorem renamed_literalOf (cs : List Char) : List.Forall₂ (Piece.Renamed default newName)
    (Piece.literalOf cs) (Piece.literalOf cs) := by
  unfold Piece.literalOf
  split
  · exact .nil
  · exact .cons (.literal _) .nil

theorem renamed_slots {slots slots' : List Slot} (hslots : ∀ slot ∈ slots, slot.Proper)
    (hslots' : ∀ slot ∈ slots', slot.Proper)
    (h : List.Forall₂ (Slot.Renamed default newName) slots slots') :
    List.Forall₂ (Piece.Renamed default newName) (slots.flatMap Slot.pieces)
      (slots'.flatMap Slot.pieces) := by
  induction h with
  | nil => exact .nil
  | @cons slot slot' slots slots' hslot _ ih =>
    obtain ⟨hhead, htail⟩ := List.forall_mem_cons.1 hslots
    obtain ⟨hhead', htail'⟩ := List.forall_mem_cons.1 hslots'
    have hread := hhead.nameAndPattern_body default
    have hread' := hhead'.nameAndPattern_body default
    rw [List.flatMap_cons, List.flatMap_cons, Slot.pieces, Slot.pieces, hslot.after]
    refine .cons (.braced ?_ ?_) (List.rel_append (renamed_literalOf _) (ih htail htail'))
    · rw [nameOf, nameOf, hread, hread']
      exact hslot.name
    · rw [hread, hread']
      exact hslot.pattern

/-- The pieces of two templates that differ in names only do so one by one. -/
theorem Wording.Renamed.pieces_renamed (hw : w.Proper reserved) (hw' : w'.Proper reserved')
    (h : w.Renamed default newName w') :
    List.Forall₂ (Piece.Renamed default newName) w.pieces w'.pieces := by
  unfold Wording.pieces
  rw [h.start]
  exact List.rel_append (renamed_literalOf _) (renamed_slots hw.slots hw'.slots h.slots)

/-! ### Compiling both -/

theorem compileRegex_agree (text text' source : String) :
    Agree Eq (compileRegex text source) (compileRegex text' source) := by
  unfold compileRegex
  cases Regex.compile source with
  | ok regex => exact .ok rfl
  | error e => exact .error

theorem findGroup_agree (text text' : String) (regex : Regex) (index : Nat) :
    Agree Eq (findGroup text regex index) (findGroup text' regex index) := by
  unfold findGroup
  cases regex.groupNames.findIdx? (· == some (groupName index)) with
  | some group => exact .ok rfl
  | none => exact .error

/-- Names that are still to come: not empty, neither reserved nor taken, and different from each other. -/
structure Fresh (reserved taken names : List String) : Prop where
  ne : "" ∉ names
  free : ∀ name ∈ names, name ∉ reserved
  nodup : (taken ++ names).Nodup

/-- A part in braces with a fresh name adds to a draft, unless its pattern is at fault. -/
theorem add_fresh (h : Fresh reserved (draft.vars.map (·.1)) (nameOf default body :: names)) :
    Draft.add text default reserved draft (.braced body) =
      if (nameAndPattern default body).2 = "" then
        .error (.badTemplatePart (.ofList (Piece.braced body).text))
      else (compileRegex text (validatorText (nameAndPattern default body).2)).map fun validator =>
        ⟨draft.pattern ++ groupText draft.vars.length (nameAndPattern default body).2,
          draft.segments ++ [.placeholder draft.vars.length],
          draft.vars ++ [(nameOf default body, validator)]⟩ := by
  have hne : (nameAndPattern default body).1 ≠ "" := fun hempty =>
    h.ne (List.mem_cons.2 (Or.inl hempty.symm))
  have hnew : (nameAndPattern default body).1 ∉ draft.vars.map (·.1) := fun hmem =>
    (List.nodup_append.1 h.nodup).2.2 _ hmem _ List.mem_cons_self rfl
  have hfree : (nameAndPattern default body).1 ∉ reserved ++ draft.vars.map (·.1) :=
    List.not_mem_append (h.free _ List.mem_cons_self) hnew
  rw [add_eq, if_neg hfree]
  simp only [hne, false_or]
  rfl

/-- A name that has been taken is no longer to come. -/
theorem Fresh.next {name : String} {validator : Regex} {vars : List (String × Regex)}
    (h : Fresh reserved (vars.map (·.1)) (name :: names)) :
    Fresh reserved ((vars ++ [(name, validator)]).map (·.1)) names where
  ne := fun hmem => h.ne (List.mem_cons_of_mem _ hmem)
  free := fun other hmem => h.free other (List.mem_cons_of_mem _ hmem)
  nodup := by
    rw [List.map_append, List.append_assoc]
    exact h.nodup

/-- A part in braces adds the same to both drafts, but for its name. -/
theorem add_agree {body' : List Char}
    (hfresh : Fresh reserved (draft.vars.map (·.1)) (nameOf default body :: names))
    (hfresh' : Fresh reserved' ((draft.rename newName).vars.map (·.1))
      (nameOf default body' :: names'))
    (hname : nameOf default body' = newName (nameOf default body))
    (hpattern : (nameAndPattern default body').2 = (nameAndPattern default body).2) :
    Agree (fun next next' => next' = next.rename newName ∧
        Fresh reserved (next.vars.map (·.1)) names ∧ Fresh reserved' (next'.vars.map (·.1)) names')
      (Draft.add text default reserved draft (.braced body))
      (Draft.add text' default reserved' (draft.rename newName) (.braced body')) := by
  rw [add_fresh hfresh, add_fresh hfresh', hpattern]
  split
  · exact .error
  · refine (compileRegex_agree text text' _).map ?_
    rintro validator _ rfl
    refine ⟨?_, hfresh.next, hfresh'.next⟩
    simp [Draft.rename, hname]

/-- **The drafts of both templates** go along with each other. -/
theorem foldlM_agree (h : List.Forall₂ (Piece.Renamed default newName) pieces pieces')
    (hfresh : Fresh reserved (draft.vars.map (·.1))
      ((pieces.filterMap Piece.body?).map (nameOf default)))
    (hfresh' : Fresh reserved' ((draft.rename newName).vars.map (·.1))
      ((pieces'.filterMap Piece.body?).map (nameOf default))) :
    Agree (fun next next' => next' = next.rename newName)
      (pieces.foldlM (Draft.add text default reserved) draft)
      (pieces'.foldlM (Draft.add text' default reserved') (draft.rename newName)) := by
  -- over the pieces of both, the names that are still to come being fresh for either draft
  induction h generalizing draft with
  | nil => exact .ok rfl
  | cons hpiece _ ih =>
    rw [List.foldlM_cons, List.foldlM_cons]
    cases hpiece with
    | literal cs => exact @ih ⟨_, _, draft.vars⟩ hfresh hfresh'
    | braced hname hpattern =>
      refine (add_agree hfresh hfresh' hname hpattern).bind ?_
      rintro next _ ⟨rfl, hnext, hnext'⟩
      exact ih hnext hnext'

theorem Wording.Proper.fresh (h : w.Proper reserved) (default : String) :
    Fresh reserved [] ((w.pieces.filterMap Piece.body?).map (nameOf default)) := by
  rw [h.names_eq default]
  refine ⟨?_, h.names_free, h.names_nodup⟩
  intro hmem
  obtain ⟨slot, hslot, hempty⟩ := List.mem_map.1 hmem
  refine (h.slots slot hslot).name_ne ?_
  rw [← String.toList_ofList (l := slot.name), hempty]
  rfl

/-- **Templates that differ in names only** are compiled to templates that do, or both are refused. -/
theorem compile_agree (hw : w.Proper reserved) (hw' : w'.Proper reserved')
    (h : w.Renamed default newName w') :
    Agree (fun t t' => t' = t.rename newName w'.text) (compile w.text default isPrefix reserved)
      (compile w'.text default isPrefix reserved') := by
  -- the texts are cut at different places, but from the pieces on no step asks for a name or a text
  rw [compile_of_split? hw.split?_text, compile_of_split? hw'.split?_text]
  refine (foldlM_agree (h.pieces_renamed hw hw') (hw.fresh default) (hw'.fresh default)).bind ?_
  rintro draft _ rfl
  refine (compileRegex_agree w.text w'.text _).bind ?_
  rintro regex _ rfl
  have hlength : (draft.rename newName).vars.length = draft.vars.length := List.length_map _
  rw [hlength]
  refine (Agree.mapM (findGroup_agree w.text w'.text regex) _).bind ?_
  rintro groups _ rfl
  refine .ok ?_
  unfold rename Draft.rename
  simp only [List.zipWith_map_left, List.map_zipWith]
  rfl

/-! ### Using both -/

theorem varNames_rename (text : String) :
    (t.rename newName text).varNames = t.varNames.map newName := by
  unfold varNames rename
  rw [List.map_map, List.map_map]
  rfl

theorem extract_rename (text : String) (captures : Regex.Captures) :
    (t.rename newName text).extract captures =
      (t.extract captures).map fun e => (newName e.1, e.2) := by
  unfold extract rename
  rw [List.filterMap_map, List.map_filterMap]
  congr 1
  funext v
  simp only [Function.comp_apply, Variable.rename, Option.map_map]
  rfl

/-- **Both templates match the same**, with the same values under the new names. -/
theorem matchVars?_rename (hnames : t.varNames.Nodup) (hnew : (t.varNames.map newName).Nodup)
    (text input : String) : (t.rename newName text).matchVars? input =
      (t.matchVars? input).map (Bindings.rename newName) := by
  have hcaptures : (t.rename newName text).captures? input = t.captures? input := rfl
  unfold matchVars?
  rw [hcaptures]
  cases t.captures? input with
  | none => rfl
  | some captures =>
    -- names that fell together would replace each other's values, so both lists must not repeat any
    have hsublist : ((t.extract captures).map (·.1)).Sublist t.varNames :=
      Bindings.names_filterMap t.vars (·.name) fun v => captures.get? v.group
    have hsublist' := hsublist.map newName
    rw [List.map_map] at hsublist'
    rw [Option.map_some, Option.map_some, Option.map_some, extract_rename,
      Bindings.ofPairs_rename (hsublist.nodup hnames) (hsublist'.nodup hnew)]

theorem mapM_mapError {α α' β ε ε' : Type} {f : α → Except ε β} {g : α' → Except ε' β} {r : α → α'}
    {k : ε → ε'} {xs : List α} (h : ∀ x ∈ xs, g (r x) = (f x).mapError k) :
    (xs.map r).mapM g = (xs.mapM f).mapError k := by
  induction xs with
  | nil => rfl
  | cons x xs ih =>
    obtain ⟨hx, hxs⟩ := List.forall_mem_cons.1 h
    rw [List.map_cons, List.mapM_cons, List.mapM_cons, hx, ih hxs]
    cases f x with
    | error e => rfl
    | ok y => cases xs.mapM f <;> rfl

theorem valuesIn_rename {values values' : Bindings}
    (h : ∀ name ∈ t.varNames, values'.get? (newName name) = values.get? name) (text : String) :
    (t.rename newName text).valuesIn values' =
      (t.valuesIn values).mapError (RouterError.rename newName) := by
  unfold valuesIn
  refine mapM_mapError fun v hv => ?_
  have hget : values'.get? (newName v.name) = values.get? v.name := h _ (List.mem_map_of_mem hv)
  simp only [Variable.rename, hget]
  cases values.get? v.name <;> rfl

theorem culprit?_rename (text : String) (values : List String) :
    (t.rename newName text).culprit? values =
      (t.culprit? values).map fun culprit => (culprit.1.rename newName, culprit.2) := by
  unfold culprit? rename
  rw [List.zip_map_left, List.find?_map]
  rfl

/-- **Both templates build the same**, or report the same of the variable with the other name. -/
theorem build_rename {values values' : Bindings}
    (h : ∀ name ∈ t.varNames, values'.get? (newName name) = values.get? name) (text : String) :
    (t.rename newName text).build values' =
      (t.build values).mapError (RouterError.rename newName) := by
  unfold build
  rw [valuesIn_rename h]
  cases t.valuesIn values with
  | error e => rfl
  | ok xs =>
    have hfill : (t.rename newName text).fill xs = t.fill xs := rfl
    have hregex : (t.rename newName text).regex = t.regex := rfl
    simp only [Except.mapError, bind, Except.bind, hfill, hregex, culprit?_rename]
    split
    · rfl
    · cases t.culprit? xs <;> rfl

/-! ### Patterns that are spelled out -/

/-- The variable with the pattern that it has in effect. -/
def Slot.spelledOut (default : String) (slot : Slot) : Slot :=
  { slot with pattern := some (slot.effective default).toList }

/-- The template with all patterns written down. -/
def Wording.spelledOut (default : String) (w : Wording) : Wording :=
  { w with slots := w.slots.map (Slot.spelledOut default) }

theorem Wording.names_spelledOut (default : String) (w : Wording) :
    (w.spelledOut default).names = w.names := by
  unfold names spelledOut
  rw [List.map_map]
  rfl

theorem Wording.Proper.spelledOut (h : w.Proper reserved) (hdefault : Balanced default.toList) :
    (w.spelledOut default).Proper reserved := by
  refine ⟨h.no_open, h.no_close, ?_, ?_, ?_⟩
  · intro slot' hslot'
    obtain ⟨slot, hslot, rfl⟩ := List.mem_map.1 hslot'
    have hproper := h.slots slot hslot
    refine ⟨hproper.name_ne, hproper.no_colon, hproper.name_balanced, ?_, hproper.no_open,
      hproper.no_close⟩
    rintro _ ⟨⟩
    unfold Slot.effective
    cases hpattern : slot.pattern with
    | none => exact hdefault
    | some pattern =>
      rw [Option.map_some, Option.getD_some, String.toList_ofList]
      exact hproper.pattern_balanced pattern hpattern
  · rw [Wording.names_spelledOut]
    exact h.names_nodup
  · rw [Wording.names_spelledOut]
    exact h.names_free

theorem Wording.renamed_spelledOut (default : String) (w : Wording) :
    w.Renamed default id (w.spelledOut default) := by
  refine ⟨rfl, ?_⟩
  unfold spelledOut
  rw [List.forall₂_map_right_iff, List.forall₂_same]
  intro slot _
  refine ⟨rfl, ?_, rfl⟩
  have heffective : (slot.spelledOut default).effective default =
      .ofList (slot.effective default).toList := rfl
  rw [heffective, String.ofList_toList]

theorem rename_id (text : String) (t : Template) : t.rename id text = { t with text := text } := by
  have hvars : t.vars.map (Variable.rename id) = t.vars := List.map_id t.vars
  unfold rename
  rw [hvars]

theorem Agree.toOption_eq {α β : Type} {f : α → β} {x : Except RouterError α}
    {y : Except RouterError β} (h : Agree (fun a b => b = f a) x y) :
    y.toOption = x.toOption.map f := by
  cases h with
  | ok hab =>
    rw [hab]
    rfl
  | error => rfl

/-- **Names mean nothing.** If two templates have the same literal text and the same patterns in effect, but
other names, each of which is not empty, has no colon and balanced braces, is not reserved and different
from the others, then one compiles exactly if the other does. They have the same expression and the same
validators, match the same texts with the same values under the new names, and build the same or report
the same of the variable with the new name. Nor does it matter whether a pattern is written down that is
the default one, if its braces are balanced: the template is then the same, but for its text. All templates
with such names are covered (`Wording.exists_proper`). -/
theorem same_up_to_names (default : String) (isPrefix : Bool) (w w' : Wording)
    (newName : String → String) (reserved reserved' : List String) (hw : w.Proper reserved)
    (hw' : w'.Proper reserved') (h : w.Renamed default newName w') :
    ((∃ t, compile w.text default isPrefix reserved = .ok t) ↔
      ∃ t', compile w'.text default isPrefix reserved' = .ok t') ∧
    (∀ t t', compile w.text default isPrefix reserved = .ok t →
      compile w'.text default isPrefix reserved' = .ok t' →
        (t.varNames = w.names ∧ t'.varNames = w'.names ∧ w'.names = w.names.map newName) ∧
        t'.regex.source = t.regex.source ∧
        t'.vars.map (·.validator.source) = t.vars.map (·.validator.source) ∧
        (∀ input, t'.matchVars? input = (t.matchVars? input).map (·.rename newName)) ∧
        ∀ values values' : Bindings,
          (∀ name ∈ t.varNames, values'.get? (newName name) = values.get? name) →
            t'.build values' = (t.build values).mapError (·.rename newName)) ∧
    (Balanced default.toList →
      (compile (w.spelledOut default).text default isPrefix reserved).toOption =
        (compile w.text default isPrefix reserved).toOption.map fun t =>
          { t with text := (w.spelledOut default).text }) := by
  have hagree : Agree (fun t t' => t' = t.rename newName w'.text)
      (compile w.text default isPrefix reserved) (compile w'.text default isPrefix reserved') :=
    compile_agree hw hw' h
  refine ⟨hagree.exists_ok_iff, ?_, ?_⟩
  · intro t t' ht ht'
    obtain rfl := hagree.related ht ht'
    have hnames : t.varNames = w.names := by
      rw [← hw.names_eq default]
      exact map_eq_map ((declared_of_compile ht hw.split?_text).2.imp fun _ _ hv => hv.1)
    have hnodup : (t.varNames.map newName).Nodup := by
      rw [hnames, ← h.names_eq]
      exact hw'.names_nodup
    refine ⟨⟨hnames, ?_, h.names_eq⟩, rfl, ?_, ?_, ?_⟩
    · rw [varNames_rename, hnames, h.names_eq]
    · unfold rename
      rw [List.map_map]
      rfl
    · exact matchVars?_rename (hnames ▸ hw.names_nodup) hnodup _
    · intro values values' hvalues
      exact build_rename hvalues _
  · intro hdefault
    have hspelled : Agree (fun t t' => t' = t.rename id (w.spelledOut default).text)
        (compile w.text default isPrefix reserved)
        (compile (w.spelledOut default).text default isPrefix reserved) :=
      compile_agree hw (hw.spelledOut hdefault) (w.renamed_spelledOut default)
    simp only [rename_id] at hspelled
    exact hspelled.toOption_eq

/-- Names that no group of an expression could have. -/
theorem same_up_to_names_strange : ∃ t t',
    compile "/{a}/{b:[0-9]{2}}" defaultPathPattern false [] = .ok t ∧
    compile "/{x y:[^/]+}/{{k}>:[0-9]{2}}" defaultPathPattern false ["a"] = .ok t' ∧
    t'.varNames = ["x y", "{k}>"] ∧ t'.regex.source = t.regex.source ∧
    (t'.matchVars? "/1/23").map (·.entries) = some [("x y", "1"), ("{k}>", "23")] ∧
    t'.build (.ofPairs [("x y", "1"), ("{k}>", "2")]) =
      .error (.invalidRouteVariable "{k}>" "2" "^(?:[0-9]{2})$") := by
  have htext : Wording.text ⟨['/'], [⟨['a'], none, ['/']⟩, ⟨['b'], some "[0-9]{2}".toList, []⟩]⟩ =
    "/{a}/{b:[0-9]{2}}" := by decide +kernel
  have htext' : Wording.text ⟨['/'], [⟨"x y".toList, some "[^/]+".toList, ['/']⟩,
    ⟨"{k}>".toList, some "[0-9]{2}".toList, []⟩]⟩ = "/{x y:[^/]+}/{{k}>:[0-9]{2}}" := by decide +kernel
  have hok : (compile "/{a}/{b:[0-9]{2}}" defaultPathPattern false []).toOption.any (fun t =>
      (t.matchVars? "/1/23").map (·.entries) == some [("a", "1"), ("b", "23")] &&
      t.varNames == ["a", "b"] &&
      t.build (.ofPairs [("a", "1"), ("b", "2")]) ==
        .error (.invalidRouteVariable "b" "2" "^(?:[0-9]{2})$")) = true := by
    decide +kernel
  obtain ⟨hcompiles, hsame, -⟩ := same_up_to_names defaultPathPattern false
    ⟨['/'], [⟨['a'], none, ['/']⟩, ⟨['b'], some "[0-9]{2}".toList, []⟩]⟩
    ⟨['/'], [⟨"x y".toList, some "[^/]+".toList, ['/']⟩, ⟨"{k}>".toList, some "[0-9]{2}".toList, []⟩]⟩
    (fun name => if name = "a" then "x y" else "{k}>") [] ["a"] (by decide +kernel) (by decide +kernel)
    ⟨rfl, .cons ⟨by decide +kernel, by decide +kernel, rfl⟩
      (.cons ⟨by decide +kernel, by decide +kernel, rfl⟩ .nil)⟩
  rw [htext, htext'] at hcompiles hsame
  obtain ⟨t, ht, hfacts⟩ := exists_ok_of_any hok
  simp only [Bool.and_eq_true, beq_iff_eq] at hfacts
  obtain ⟨⟨hmatch, hvars⟩, hbuild⟩ := hfacts
  obtain ⟨t', ht'⟩ := hcompiles.1 ⟨t, ht⟩
  obtain ⟨⟨-, hnames, -⟩, hsource, -, hmatches, hbuilds⟩ := hsame t t' ht ht'
  refine ⟨t, t', ht, ht', hnames, hsource, ?_, ?_⟩
  · obtain ⟨values, hvalues, hentries⟩ := Option.map_eq_some_iff.1 hmatch
    rw [hmatches, hvalues, Option.map_some, Option.map_some, Bindings.rename, hentries]
    decide +kernel
  · rw [hbuilds (.ofPairs [("a", "1"), ("b", "2")]) _ (by rw [hvars]; decide +kernel), hbuild]
    decide +kernel

end Template

end RequestRouter
