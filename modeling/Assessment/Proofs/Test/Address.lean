import Mathlib.Data.List.TakeWhile
import Assessment.Proofs.Test.Safety

/-!
# Variables of items in a test

Expressions of a test refer to the variables of its items by qualified names: the name of a
reference to an item, a full stop, and the name of the variable. A qualified name is split at its
first full stop. Names may hold full stops themselves, so that this is the one that was put in
between only where the name of the reference holds none; the variables of an item that is referred
to by a name with a full stop cannot be reached.

## Main definitions

- `Identifier.qualify`: the qualified name of a variable.
- `TestState.Addresses`: the qualified name of a variable leads to it.

## Main results

- `Identifier.split?_eq_some_iff`: what the halves of a qualified name are.
- `TestDelivery.Reachable.addresses_iff`: in every session of a valid test exactly the variables of
  items whose references have no full stop in their names are addressed.
-/

namespace Assessment

/-! ### Qualified names -/

namespace Identifier

/-- A character that a legal name goes on with. -/
def goesOn (c : Char) : Bool := Text.isAlphanumeric c || c = '_' || c = '-' || c = '.'

theorem isLegalName_iff {text : String} :
    isLegalName text = true ↔ ∃ first rest, text.toList = first :: rest ∧
      (Text.isAlphabetic first || first = '_') = true ∧ rest.all goesOn = true := by
  unfold isLegalName
  cases text.toList with
  | nil => simp
  | cons first rest =>
    simp only [List.cons.injEq, Bool.and_eq_true]
    exact ⟨fun h => ⟨first, rest, ⟨rfl, rfl⟩, h⟩, fun ⟨_, _, ⟨rfl, rfl⟩, h⟩ => h⟩

/-- A legal name consists of characters that another one could go on with. -/
theorem all_goesOn (name : Identifier) : name.text.toList.all goesOn = true := by
  obtain ⟨first, rest, htext, hfirst, hrest⟩ := isLegalName_iff.1 name.legal
  have hstart : goesOn first = true := by
    rw [goesOn, Text.isAlphanumeric]
    obtain hfirst | hfirst := Bool.or_eq_true_iff.1 hfirst <;> simp [hfirst]
  rw [htext, List.all_cons, hstart, hrest]
  rfl

/-- The qualified name of a variable of what has a name. -/
def qualify (before after : Identifier) : Identifier where
  text := before.text ++ ("." ++ after.text)
  legal := by
    obtain ⟨first, rest, htext, hfirst, hrest⟩ := isLegalName_iff.1 before.legal
    refine isLegalName_iff.2 ⟨first, rest ++ '.' :: after.text.toList, ?_, hfirst, ?_⟩
    · simp [htext]
    · rw [List.all_append, hrest, List.all_cons, all_goesOn]
      rfl

variable {name before after : Identifier}

theorem toList_qualify (before after : Identifier) :
    (before.qualify after).text.toList = before.text.toList ++ '.' :: after.text.toList := by
  simp [qualify]

/-- A name is split into the name before its first full stop and the rest. -/
theorem split?_eq_some_iff :
    name.split? = some (before, after) ↔
      name = before.qualify after ∧ '.' ∉ before.text.toList := by
  constructor
  · intro h
    unfold split? at h
    dsimp only at h
    split at h
    next stop rest hdrop =>
      simp only [Option.bind_eq_bind, Option.bind_eq_some_iff, Option.some.injEq,
        Prod.mk.injEq] at h
      obtain ⟨_, hbefore, _, hafter, rfl, rfl⟩ := h
      -- What is dropped begins with the full stop that ended the first half.
      obtain rfl : stop = '.' := by
        have hhead := List.head?_dropWhile_not (· != '.') name.text.toList
        rw [hdrop] at hhead
        simpa using hhead
      have hsplit : name.text.toList = name.text.toList.takeWhile (· != '.') ++ '.' :: rest := by
        rw [← hdrop, List.takeWhile_append_dropWhile]
      have hfront := text_of_ofText? hbefore
      refine ⟨text_inj.1 (String.toList_injective ?_), ?_⟩
      · rw [toList_qualify, hfront, text_of_ofText? hafter, String.toList_ofList,
          String.toList_ofList, ← hsplit]
      · rw [hfront, String.toList_ofList]
        intro hmem
        simpa using List.mem_takeWhile_imp hmem
    next => cases h
  · rintro ⟨rfl, hbefore⟩
    have hfront : ∀ c ∈ before.text.toList, (c != '.') = true := by
      intro c hc
      simpa using fun heq : c = '.' => hbefore (heq ▸ hc)
    simp [split?, toList_qualify, List.takeWhile_append_of_pos hfront,
      List.dropWhile_append_of_pos hfront]

end Identifier

/-! ### What qualified names lead to -/

namespace TestState

variable {test : TestDefinition} {state : TestState} {ref : ItemRef} {item : ItemDefinition}
  {session : ItemState} {declaration : Declaration} {before after : Identifier}

/-- The qualified name of a variable leads to the variable, and to its value in a session. -/
structure Addresses (test : TestDefinition) (state : TestState) (ref : Identifier)
    (session : ItemState) (declaration : Declaration) : Prop where
  /-- The name means the variable. -/
  declared : (state.view test).declaration? (ref.qualify declaration.identifier) =
    some declaration
  /-- Its value is that of the session. -/
  bound : ∃ value, (session.store declaration.role).get? declaration.identifier = some value ∧
    (state.view test).value (ref.qualify declaration.identifier) = .ok value

/-- Only a declared variable of the test as a whole may have a qualified name. -/
theorem ownDeclaration?_qualify (h : test.outcome? (before.qualify after) = none) :
    ownDeclaration? test (before.qualify after) = none := by
  -- The only variable that every test has is not named with a full stop.
  have hduration : before.qualify after ≠ BuiltIn.duration.identifier := by
    intro heq
    have hstop : '.' ∈ (before.qualify after).text.toList := by simp [Identifier.toList_qualify]
    rw [heq] at hstop
    exact absurd hstop (by decide)
  rw [ownDeclaration?, h]
  exact if_neg hduration

/-- A name without a full stop is told apart from what stands behind it. -/
theorem qualified?_qualify (href : test.itemRef? ref.identifier = some ref)
    (hitem : test.item? ref.item = some item)
    (hsession : state.items.get? ref.identifier = some session)
    (hstop : '.' ∉ ref.identifier.text.toList) (name : Identifier) :
    state.qualified? test (ref.identifier.qualify name) = some (ref, item, session, name) := by
  rw [qualified?, Identifier.split?_eq_some_iff.2 ⟨rfl, hstop⟩]
  simp [href, hitem, hsession]

/-- The part of a name before a full stop in it is not the whole name, and what follows is not the
name of a variable that was put behind. -/
theorem declaration?_qualify_ne
    (hown : test.outcome? (before.qualify declaration.identifier) = none)
    (hstop : '.' ∈ before.text.toList) :
    state.declaration? test (before.qualify declaration.identifier) ≠ some declaration := by
  intro h
  rw [declaration?, ownDeclaration?_qualify hown] at h
  simp only [qualified?, Option.bind_eq_bind, Option.bind_eq_some_iff, Option.some.injEq] at h
  obtain ⟨_, ⟨⟨front, inner⟩, hsplit, ref, -, item, -, session, -, rfl⟩, hresolve⟩ := h
  obtain ⟨heq, hfront⟩ := Identifier.split?_eq_some_iff.1 hsplit
  -- What is found has the name behind the first full stop, so both names end alike.
  obtain ⟨-, rfl⟩ := ItemDefinition.mem_allVariables_of_resolve? hresolve
  have htexts := congrArg (fun name : Identifier => name.text.toList) heq
  simp only [Identifier.toList_qualify] at htexts
  rw [List.append_cancel_right htexts] at hstop
  exact hfront hstop

/-- The variables of an item are addressed if its reference has no full stop in its name. -/
theorem addresses_of_contains (href : test.itemRef? ref.identifier = some ref)
    (hitem : test.item? ref.item = some item)
    (hsession : state.items.get? ref.identifier = some session)
    (hresolve : item.resolve? declaration.identifier.text = some declaration)
    (hvalue : (session.store declaration.role).contains declaration.identifier = true)
    (hown : test.outcome? (ref.identifier.qualify declaration.identifier) = none)
    (hstop : '.' ∉ ref.identifier.text.toList) :
    state.Addresses test ref.identifier session declaration := by
  have hqualified := qualified?_qualify href hitem hsession hstop declaration.identifier
  obtain ⟨value, hvalue⟩ := Option.isSome_iff_exists.1 hvalue
  refine ⟨?_, value, hvalue, ?_⟩
  · change state.declaration? test _ = _
    rw [declaration?, ownDeclaration?_qualify hown, hqualified]
    exact hresolve
  · change state.read test _ = _
    rw [read, ownDeclaration?_qualify hown]
    dsimp only
    rw [readQualified, hqualified]
    dsimp only
    rw [ItemState.read, ItemState.declared, hresolve]
    change (session.store declaration.role).value declaration.identifier = _
    rw [Store.value, hvalue]

end TestState

/-! ### Sessions of valid tests -/

namespace TestDelivery

open Identifier

variable {delivery : TestDelivery} {state : TestState} {seed : UInt64} {registry : Registry}

/-- **In every session of a valid test the qualified name of a variable of an item leads to it** and
to its value in the session of the reference, exactly where the name of the reference has no full
stop. A test may have an outcome variable of the same name, which is then the one that is meant. -/
theorem Reachable.addresses_iff (hvalid : (delivery.definition.validate registry).errors = [])
    (h : delivery.Reachable seed state) {ref : ItemRef}
    (href : ref ∈ delivery.definition.itemRefs) :
    ∃ item session, delivery.definition.item? ref.item = some item ∧
      state.items.get? ref.identifier = some session ∧
      ∀ declaration ∈ item.allVariables,
        delivery.definition.outcome? (ref.identifier.qualify declaration.identifier) = none →
        (state.Addresses delivery.definition ref.identifier session declaration ↔
          '.' ∉ ref.identifier.text.toList) := by
  have hdefinition := TestDefinition.wellFormed_of_validate hvalid
  have hfound : delivery.definition.itemRef? ref.identifier = some ref :=
    find?_name_of_mem hdefinition.names href
  -- Sessions are kept by the names of the references, so those of one item do not mix.
  obtain ⟨delivered, session, hdelivered, hsession, hstocked⟩ :=
    (h.stocked hdefinition).items ⟨ref.identifier, ref.item, .default⟩ (List.mem_map_of_mem href)
  obtain ⟨item, _, hitem, -, rfl⟩ := exists_of_itemDelivery hdelivered
  refine ⟨item, session, hitem, hsession, fun declaration hdeclaration hown => ?_⟩
  refine ⟨fun haddress hstop => ?_, fun hstop => ?_⟩
  · exact TestState.declaration?_qualify_ne hown hstop haddress.declared
  · have hnames : item.WellNamed := ItemDefinition.wellNamed_of_validate
      ((TestDefinition.errors_validate_eq_nil.1 hvalid).2.2.2.2.2.2 item
        (List.mem_of_find?_eq_some hitem))
    -- In a session every variable of its item has a value at all times.
    have hvalue := hstocked.stores declaration.role declaration.identifier
      (ItemDefinition.mem_variableNames.2 ⟨declaration, hdeclaration, rfl, rfl⟩)
    exact TestState.addresses_of_contains hfound hitem hsession (hnames.resolve?_eq hdeclaration)
      hvalue hown hstop

/-- Two references lead to one item, and a response was given to the first. The number of attempts
is read from the session of each. -/
theorem addresses_iff_pair :
    ∃ state, (pair ⟨some 1, none, none⟩ []).Reachable 0 state ∧
      (pair ⟨some 1, none, none⟩ []).definition.itemRefs.map (fun ref =>
        ((state.view (.pair ⟨some 1, none, none⟩ [])).value
          (ref.identifier.qualify BuiltIn.numAttempts.identifier)).toOption.bind Value.word?) =
      [some 1, some 0] := by
  let ref (name : Identifier) : ItemRef := ⟨name, ⟨"Q", by decide +kernel⟩, [], [], none, []⟩
  let first : Identifier := ⟨"Q1", by decide +kernel⟩
  let second : Identifier := ⟨"Q2", by decide +kernel⟩
  have hrefs : (pair ⟨some 1, none, none⟩ []).definition.itemRefs = [ref first, ref second] := rfl
  let attempted (state : TestState) (name : Identifier) (count : Int64) : Bool :=
    (state.items.get? name).any fun session =>
      (session.responses.get? BuiltIn.numAttempts.identifier).any (·.word? = some count)
  have hsession : ((pair ⟨some 1, none, none⟩ []).sessionAfter 0
      [.enterTest (.logical 0), .enterPart (.unixMillis 0), .advance (.logical 0),
        .respond (.unixMillis 0) .empty]).any (fun state =>
      attempted state first 1 && attempted state second 0) = true := by
    decide +kernel
  obtain ⟨state, hstate, hattempted⟩ := (Option.any_eq_true _ _).1 hsession
  rw [Bool.and_eq_true] at hattempted
  have hreachable := reachable_of_sessionAfter hstate
  have hvalid : ((pair ⟨some 1, none, none⟩ []).definition.validate .empty).errors = [] := by
    decide +kernel
  have hread (name : Identifier) (count : Int64) (hstop : '.' ∉ name.text.toList)
      (href : ref name ∈ (pair ⟨some 1, none, none⟩ []).definition.itemRefs)
      (hcount : attempted state name count = true) :
      ((state.view (.pair ⟨some 1, none, none⟩ [])).value
        (name.qualify BuiltIn.numAttempts.identifier)).toOption.bind Value.word? = some count := by
    obtain ⟨item, session, -, hget, hall⟩ := Reachable.addresses_iff hvalid hreachable href
    have haddress := hall (.builtIn .numAttempts) (ItemDefinition.mem_allVariables_builtIn _) rfl
    obtain ⟨-, value, hvalue, hread⟩ := haddress.2 hstop
    obtain ⟨_, hsame, hvalues⟩ := (Option.any_eq_true _ _).1 hcount
    obtain rfl := Option.some.inj (hget.symm.trans hsame)
    obtain ⟨_, hsame, hword⟩ := (Option.any_eq_true _ _).1 hvalues
    obtain rfl := Option.some.inj (hvalue.symm.trans hsame)
    change (state.view (.pair ⟨some 1, none, none⟩ [])).value
      (name.qualify BuiltIn.numAttempts.identifier) = .ok value at hread
    rw [hread]
    exact of_decide_eq_true hword
  refine ⟨state, hreachable, ?_⟩
  rw [hrefs, List.map_cons, List.map_cons, List.map_nil,
    hread first 1 (by decide) List.mem_cons_self hattempted.1,
    hread second 0 (by decide) (List.mem_cons_of_mem _ List.mem_cons_self) hattempted.2]

end TestDelivery

/-- The test with one item, which is referred to by a name with a full stop. -/
def TestDefinition.dotted : TestDefinition :=
  let test := TestDefinition.single .linear .individual
  let refs : List SectionPart := test.items.map fun item =>
    .itemRef ⟨⟨"A.B", by decide +kernel⟩, item.identifier, [], [], none, []⟩
  { test with parts := test.parts.map fun part =>
      { part with sections := part.sections.map ({ · with parts := refs }) } }

/-- The test with this reference, with an engine that has no extensions. -/
def TestDelivery.dotted : TestDelivery :=
  { TestDelivery.single .linear .individual with definition := .dotted }

namespace TestDelivery

/-- No variable of an item is addressed whose reference has a full stop in its name. -/
theorem not_forall_addresses :
    ¬∀ (delivery : TestDelivery) (registry : Registry) (seed : UInt64) (state : TestState)
      (ref : ItemRef), (delivery.definition.validate registry).errors = [] →
      delivery.Reachable seed state → ref ∈ delivery.definition.itemRefs →
      ∃ item session, delivery.definition.item? ref.item = some item ∧
        state.items.get? ref.identifier = some session ∧
        ∀ declaration ∈ item.allVariables,
          delivery.definition.outcome? (ref.identifier.qualify declaration.identifier) = none →
          state.Addresses delivery.definition ref.identifier session declaration := by
  intro h
  have hsession : (dotted.sessionAfter 0 []).isSome = true := by decide +kernel
  obtain ⟨state, hstate⟩ := Option.isSome_iff_exists.1 hsession
  obtain ⟨item, session, -, -, hall⟩ := h dotted .empty 0 state _ (by decide +kernel)
    (reachable_of_sessionAfter hstate) List.mem_cons_self
  let ref : Identifier := ⟨"A.B", by decide +kernel⟩
  have hdeclared : state.declaration? .dotted
      (ref.qualify (Declaration.builtIn .numAttempts).identifier) = some (.builtIn .numAttempts) :=
    (hall (.builtIn .numAttempts) (ItemDefinition.mem_allVariables_builtIn _) rfl).declared
  have hstop : '.' ∈ ref.text.toList := by decide
  exact TestState.declaration?_qualify_ne rfl hstop hdeclared

end TestDelivery

end Assessment
