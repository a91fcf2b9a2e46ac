import Mathlib
import RobotAdmin.Proofs.Command.Format

namespace RobotAdmin.Command

open Json

/-- A value stands for a command: as an object that has the name of the command and its operand, if there is one,
    once each and as strings, among any other members; or as an array of the name and the operand alone. -/
inductive Denotes : Json → Command → Prop where
  | members {members : List (String × Json)} {command : Command}
      (hname : valuesOf "cmd" members = [.text command.name])
      (hoperand : ∀ operand ∈ command.operand?, valuesOf operand.1 members = [.text operand.2]) :
      Denotes (.object members) command
  | items (command : Command) :
      Denotes (.array (.text command.name :: command.operand?.toList.map fun operand => .text operand.2)) command

/-- The draft that a value makes up. -/
def draft? : Json → Option Draft
  | .object members => (members.foldlM Members.take? {}).bind fun met => (draftOfMembers met).toOption
  | .array (name :: items) => (knownName? name).map fun name => ⟨name, .inr items⟩
  | _ => none

theorem toOption_eq_some_iff {ε α : Type} {result : Except ε α} {value : α} :
    result.toOption = some value ↔ result = .ok value := by
  cases result <;> simp [Except.toOption]

section

variable {input rest : List UInt8} {draft : Draft} {command : Command}

/-- The array form of a draft: the first item is the name, and all others are kept. -/
theorem reads_readDraftItems_iff (room : Nat) :
    Reads (readDraftItems (readValue room)) input draft rest ↔
      ∃ items, ReadsArray (readValue room) input items rest ∧ draft? (.array items) = some draft := by
  have hnarrow := narrows_readName room
  constructor
  · rintro ⟨_, hread⟩
    rw [readDraftItems] at hread
    split at hread
    · cases hread
    · cases hread
    rename_i start hstart
    split at hread
    · cases hread
    rename_i name hname
    obtain ⟨others, hothers, hsame⟩ := exists_of_map_eq_ok hread
    obtain ⟨rfl, rfl⟩ := Taken.mk.inj hsame
    obtain ⟨value, hvalue, haccept⟩ := (hnarrow _ _ _).mp ⟨name.shorter, hname⟩
    obtain ⟨items, last, hitems, hclose, hall⟩ := readsItems_of_readItemsFrom hothers
    refine ⟨value :: items, ⟨last, .next hstart hvalue hitems, hclose⟩, ?_⟩
    rw [draft?, haccept, Option.map_some]
    exact congrArg (fun parts => some (Draft.mk name.value (.inr parts))) hall.symm
  · rintro ⟨items, ⟨last, hitems, hclose⟩, hdraft⟩
    cases hitems with
    | stop hstop => cases hdraft
    | @next _ _ start value behind _ items hstart hvalue hmore =>
      obtain ⟨name, haccept, rfl⟩ := Option.map_eq_some_iff.mp hdraft
      obtain ⟨hbehind, hname⟩ := (hnarrow _ _ _).mpr ⟨value, hvalue, haccept⟩
      obtain ⟨shorter, hothers⟩ := readItemsFrom_of_readsItems hmore hclose [] (Nat.le_refl behind.length)
      refine ⟨Nat.lt_trans shorter (Nat.lt_of_lt_of_le hbehind start.property), ?_⟩
      rw [readDraftItems, hstart]
      dsimp only
      rw [hname]
      dsimp only
      rw [hothers]
      rfl

theorem reads_readDraftMembers_iff (room : Nat) :
    Reads (readObject {} (takeMember (readValue room)) draftOfMembers) input draft rest ↔
      ∃ members, ReadsObject (readValue room) input members rest ∧ draft? (.object members) = some draft := by
  simp only [reads_readObject_iff (stepsBy_takeMember room), draft?, Option.bind_eq_some_iff, toOption_eq_some_iff]

/-- A draft is read wherever a value is that makes it up. -/
theorem narrows_readDraft : Narrows readDraft (readValue maxDepth) draft? := by
  intro input draft rest
  have hitems (items : List Json) : Reads (readValue maxDepth) input (.array items) rest ↔
      ∃ behind, Reads readOpening input .array behind ∧
        ReadsArray (readValue (maxDepth - 1)) behind items rest := reads_readValue_array_iff
  have hmembers (members : List (String × Json)) : Reads (readValue maxDepth) input (.object members) rest ↔
      ∃ behind, Reads readOpening input .object behind ∧
        ReadsObject (readValue (maxDepth - 1)) behind members rest := reads_readValue_object_iff
  constructor
  · rintro ⟨_, hread⟩
    rw [readDraft] at hread
    split at hread
    · cases hread
    rename_i opening hopening
    split at hread
    · cases hread
    · rename_i harray
      obtain ⟨taken, htaken, hsame⟩ := exists_of_map_eq_ok hread
      obtain ⟨rfl, rfl⟩ := Taken.mk.inj hsame
      obtain ⟨items, hread, hdraft⟩ := (reads_readDraftItems_iff _).mp ⟨taken.shorter, htaken⟩
      exact ⟨.array items, (hitems items).mpr ⟨_, ⟨opening.shorter, by rw [hopening, ← harray]⟩, hread⟩, hdraft⟩
    · rename_i hobject
      obtain ⟨taken, htaken, hsame⟩ := exists_of_map_eq_ok hread
      obtain ⟨rfl, rfl⟩ := Taken.mk.inj hsame
      obtain ⟨members, hread, hdraft⟩ := (reads_readDraftMembers_iff _).mp ⟨taken.shorter, htaken⟩
      exact ⟨.object members, (hmembers members).mpr ⟨_, ⟨opening.shorter, by rw [hopening, ← hobject]⟩, hread⟩, hdraft⟩
  · rintro ⟨value, hvalue, hdraft⟩
    cases value with
    | array items =>
      obtain ⟨behind, ⟨hbehind, hopening⟩, hread⟩ := (hitems items).mp hvalue
      obtain ⟨shorter, htaken⟩ := (reads_readDraftItems_iff _).mpr ⟨items, hread, hdraft⟩
      refine ⟨Nat.lt_trans shorter hbehind, ?_⟩
      rw [readDraft, hopening]
      dsimp only
      rw [htaken]
      rfl
    | object members =>
      obtain ⟨behind, ⟨hbehind, hopening⟩, hread⟩ := (hmembers members).mp hvalue
      obtain ⟨shorter, htaken⟩ := (reads_readDraftMembers_iff _).mpr ⟨members, hread, hdraft⟩
      refine ⟨Nat.lt_trans shorter hbehind, ?_⟩
      rw [readDraft, hopening]
      dsimp only
      rw [htaken]
      rfl
    | _ => cases hdraft

end

/-- Looking a member up takes its value where it has none yet. -/
theorem textMember_eq_ok_iff (name : String) (members : List (String × Json)) (met : Option String) (s : String) :
    textMember name met members = .ok s ↔ (valuesOf name members).foldlM (takeOnce text?) met = some (some s) := by
  induction members generalizing met with
  | nil => cases met <;> simp [textMember, valuesOf_nil]
  | cons member members ih =>
    obtain ⟨other, value⟩ := member
    rw [textMember, valuesOf_cons]
    by_cases hname : other = name
    · rw [if_pos hname, if_pos hname, List.foldlM_cons]
      cases met with
      | some found => simp [takeOnce]
      | none => cases value <;> simp [textOf, takeOnce, text?, ih]
    · rw [if_neg hname, if_neg hname, ih]

theorem textItem_eq_ok_iff {kind s : String} {items : List Json} : textItem kind items = .ok s ↔ items = [.text s] := by
  rcases items with _ | ⟨item, rest⟩
  · simp [textItem]
  · cases item <;> cases rest <;> simp [textItem, textOf]

/-- The operand that the parts of a draft give: the only value under its name, or the only item. -/
def GivesOperand (member s : String) : List (String × Json) ⊕ List Json → Prop
  | .inl members => valuesOf member members = [.text s]
  | .inr items => items = [.text s]

theorem operandOf_eq_ok_iff {member kind s : String} {parts : List (String × Json) ⊕ List Json} :
    operandOf member kind parts = .ok s ↔ GivesOperand member s parts := by
  cases parts with
  | inl members => rw [operandOf, textMember_eq_ok_iff, foldlM_text?_eq_some_iff, GivesOperand]
  | inr items => rw [operandOf, textItem_eq_ok_iff, GivesOperand]

/-- The parts of a draft are what a command needs besides its name. -/
def Complete (parts : List (String × Json) ⊕ List Json) (command : Command) : Prop :=
  match command.operand? with
  | none => ∀ items, parts = .inr items → items = []
  | some (member, s) => GivesOperand member s parts

/-- The name of a draft decides what its parts have to be. -/
theorem ofDraft_eq_ok_iff {draft : Draft} {command : Command} (hname : draft.name ∈ names) :
    ofDraft draft = .ok command ↔ draft.name = command.name ∧ Complete draft.parts command := by
  have hmap {α β : Type} {f : α → β} {result : Except Problem α} {value : β} :
      result.map f = .ok value ↔ ∃ before, result = .ok before ∧ f before = value := by
    cases result <;> simp [Except.map]
  obtain ⟨name, parts⟩ := draft
  simp only [names, List.mem_cons, List.not_mem_nil, or_false] at hname
  obtain rfl | rfl | rfl := hname
  · cases command with
    | updateFirmware =>
      cases parts with
      | inl members => simp [ofDraft, noOperand, Complete, operand?, Command.name, Except.map]
      | inr items => cases items <;> simp [ofDraft, noOperand, Complete, operand?, Command.name, Except.map]
    | _ => simp [ofDraft, hmap, Command.name]
  · cases command <;> simp [ofDraft, hmap, operandOf_eq_ok_iff, Complete, operand?, Command.name]
  · cases command <;> simp [ofDraft, hmap, operandOf_eq_ok_iff, Complete, operand?, Command.name]

/-- The members of a command besides its name. -/
def otherMembers (members : List (String × Json)) : List (String × Json) :=
  members.filter fun member => member.1 ≠ "cmd"

theorem valuesOf_otherMembers {name : String} (hname : name ≠ "cmd") (members : List (String × Json)) :
    valuesOf name (otherMembers members) = valuesOf name members := by
  induction members with
  | nil => rfl
  | cons member members ih =>
    by_cases hcmd : member.1 = "cmd"
    · have hother : member.1 ≠ name := fun hsame => hname (hsame.symm.trans hcmd)
      rw [otherMembers, List.filter_cons_of_neg (by simp [hcmd]), valuesOf_cons, if_neg hother]
      exact ih
    · rw [otherMembers, List.filter_cons_of_pos (by simp [hcmd]), valuesOf_cons, valuesOf_cons]
      exact congrArg (fun values => if member.1 = name then member.2 :: values else values) ih

/-- Taking members one after the other takes the name and collects the others. -/
theorem foldlM_take?_eq_some_iff (members : List (String × Json)) (met final : Members) :
    members.foldlM Members.take? met = some final ↔
      (valuesOf "cmd" members).foldlM (takeOnce knownName?) met.name = some final.name ∧
      (otherMembers members).reverse ++ met.others = final.others := by
  induction members generalizing met with
  | nil =>
    obtain ⟨name, others⟩ := met
    obtain ⟨name', others'⟩ := final
    simp [valuesOf_nil, otherMembers]
  | cons member members ih =>
    obtain ⟨name, value⟩ := member
    rw [List.foldlM_cons, Members.take?, valuesOf_cons]
    by_cases hname : name = "cmd"
    · subst hname
      cases htake : takeOnce knownName? met.name value <;> simp [otherMembers, htake, ih]
    · simp [otherMembers, hname, ih]

theorem knownName?_eq_some_iff {value : Json} {name : String} :
    knownName? value = some name ↔ value = .text name ∧ name ∈ names := by
  rw [knownName?, Option.filter_eq_some_iff, decide_eq_true_eq, text?_eq_some_iff]

theorem foldlM_knownName?_eq_some_iff {values : List Json} {name : String} :
    values.foldlM (takeOnce knownName?) none = some (some name) ↔ values = [.text name] ∧ name ∈ names := by
  simp only [foldlM_takeOnce_eq_some_some_iff, knownName?_eq_some_iff]
  constructor
  · rintro ⟨_, hvalues, rfl, hname⟩
    exact ⟨hvalues, hname⟩
  · rintro ⟨hvalues, hname⟩
    exact ⟨_, hvalues, rfl, hname⟩

theorem draftOfMembers_eq_ok_iff {members : Members} {draft : Draft} :
    draftOfMembers members = .ok draft ↔
      members.name = some draft.name ∧ draft.parts = .inl members.others.reverse := by
  obtain ⟨name, parts⟩ := draft
  unfold draftOfMembers
  cases members.name <;> simp [eq_comm]

theorem draft?_object_eq_some_iff {members : List (String × Json)} {draft : Draft} :
    draft? (.object members) = some draft ↔
      valuesOf "cmd" members = [.text draft.name] ∧ draft.name ∈ names ∧
        draft.parts = .inl (otherMembers members) := by
  simp only [draft?, Option.bind_eq_some_iff, toOption_eq_some_iff, draftOfMembers_eq_ok_iff,
    foldlM_take?_eq_some_iff, List.append_nil]
  constructor
  · rintro ⟨met, ⟨hcmd, hothers⟩, hname, hparts⟩
    rw [hname] at hcmd
    obtain ⟨hvalues, hknown⟩ := foldlM_knownName?_eq_some_iff.mp hcmd
    rw [← hothers, List.reverse_reverse] at hparts
    exact ⟨hvalues, hknown, hparts⟩
  · rintro ⟨hvalues, hknown, hparts⟩
    exact ⟨⟨some draft.name, (otherMembers members).reverse⟩,
      ⟨foldlM_knownName?_eq_some_iff.mpr ⟨hvalues, hknown⟩, rfl⟩, rfl, by rw [List.reverse_reverse, hparts]⟩

theorem draft?_array_eq_some_iff {items : List Json} {draft : Draft} :
    draft? (.array items) = some draft ↔
      ∃ parts, items = .text draft.name :: parts ∧ draft.name ∈ names ∧ draft.parts = .inr parts := by
  obtain ⟨name, parts⟩ := draft
  cases items with
  | nil => simp [draft?]
  | cons item items =>
    simp only [draft?, Option.map_eq_some_iff, knownName?_eq_some_iff, Draft.mk.injEq, List.cons.injEq]
    constructor
    · rintro ⟨_, ⟨rfl, hname⟩, rfl, rfl⟩
      exact ⟨items, ⟨rfl, rfl⟩, hname, rfl⟩
    · rintro ⟨_, ⟨rfl, rfl⟩, hname, rfl⟩
      exact ⟨name, ⟨rfl, hname⟩, rfl, rfl⟩

theorem name_mem_names (command : Command) : command.name ∈ names := by
  cases command <;> simp [Command.name, names]

theorem complete_inl_iff {members : List (String × Json)} {command : Command} :
    Complete (.inl (otherMembers members)) command ↔
      ∀ operand ∈ command.operand?, valuesOf operand.1 members = [.text operand.2] := by
  have htoken : valuesOf "token" (otherMembers members) = valuesOf "token" members := valuesOf_otherMembers (by decide) _
  have hrobot : valuesOf "robot" (otherMembers members) = valuesOf "robot" members := valuesOf_otherMembers (by decide) _
  cases command <;> simp [Complete, operand?, GivesOperand, htoken, hrobot]

theorem complete_inr_iff {items : List Json} {command : Command} :
    Complete (.inr items) command ↔ items = command.operand?.toList.map fun operand => .text operand.2 := by
  cases command <;> simp [Complete, operand?, GivesOperand]

/-- The draft of a value becomes a command exactly if the value stands for it. -/
theorem exists_draft_iff {value : Json} {command : Command} :
    (∃ draft, draft? value = some draft ∧ ofDraft draft = .ok command) ↔ Denotes value command := by
  constructor
  · rintro ⟨⟨name, parts⟩, hdraft, hcommand⟩
    cases value with
    | object members =>
      obtain ⟨hvalues, hknown, rfl⟩ := draft?_object_eq_some_iff.mp hdraft
      obtain ⟨rfl, hcomplete⟩ := (ofDraft_eq_ok_iff hknown).mp hcommand
      exact .members hvalues (complete_inl_iff.mp hcomplete)
    | array items =>
      obtain ⟨parts, rfl, hknown, rfl⟩ := draft?_array_eq_some_iff.mp hdraft
      obtain ⟨rfl, hcomplete⟩ := (ofDraft_eq_ok_iff hknown).mp hcommand
      obtain rfl := complete_inr_iff.mp hcomplete
      exact .items command
    | _ => cases hdraft
  · have hknown := name_mem_names command
    rintro (⟨hname, hoperand⟩ | _)
    · exact ⟨⟨command.name, .inl _⟩, draft?_object_eq_some_iff.mpr ⟨hname, hknown, rfl⟩,
        (ofDraft_eq_ok_iff hknown).mpr ⟨rfl, complete_inl_iff.mpr hoperand⟩⟩
    · exact ⟨⟨command.name, .inr _⟩, draft?_array_eq_some_iff.mpr ⟨_, rfl, hknown, rfl⟩,
        (ofDraft_eq_ok_iff hknown).mpr ⟨rfl, complete_inr_iff.mpr rfl⟩⟩

theorem reads_read_iff {input rest : List UInt8} {command : Command} :
    Reads read input command rest ↔ ∃ draft, Reads readDraft input draft rest ∧ ofDraft draft = .ok command := by
  constructor
  · rintro ⟨_, hread⟩
    rw [read] at hread
    split at hread
    · cases hread
    rename_i draft hdraft
    split at hread
    · cases hread
    · rename_i hcommand
      obtain ⟨rfl, rfl⟩ := Taken.mk.inj (Except.ok.inj hread)
      exact ⟨draft.value, ⟨draft.shorter, hdraft⟩, hcommand⟩
  · rintro ⟨draft, ⟨shorter, hdraft⟩, hcommand⟩
    refine ⟨shorter, ?_⟩
    rw [read, hdraft]
    dsimp only
    rw [hcommand]
    rfl

theorem decode_eq_ok_iff {text : List UInt8} {command : Command} :
    decode text = .ok command ↔ ∃ value, Json.decode text = .ok value ∧ Denotes value command := by
  simp only [decode, Json.decode, readAll_eq_ok_iff, reads_read_iff, narrows_readDraft _ _ _, ← exists_draft_iff]
  constructor
  · rintro ⟨rest, ⟨draft, ⟨value, hvalue, hdraft⟩, hcommand⟩, hrest⟩
    exact ⟨value, ⟨rest, hvalue, hrest⟩, draft, hdraft, hcommand⟩
  · rintro ⟨value, ⟨rest, hvalue, hrest⟩, draft, hdraft, hcommand⟩
    exact ⟨rest, ⟨draft, ⟨value, hvalue, hdraft⟩, hcommand⟩, hrest⟩

theorem valuesOf_of_perm {members others : List (String × Json)} (hperm : members.Perm others) (name : String) :
    (valuesOf name members).Perm (valuesOf name others) :=
  (hperm.filter _).map _

/-- Which command an object stands for does not depend on the order of its members. -/
theorem Denotes.of_perm {members others : List (String × Json)} {command : Command} (hperm : members.Perm others)
    (hdenotes : Denotes (.object members) command) : Denotes (.object others) command := by
  have hvalues {name s : String} (honly : valuesOf name members = [.text s]) : valuesOf name others = [.text s] :=
    List.perm_singleton.mp (honly ▸ (valuesOf_of_perm hperm name).symm)
  cases hdenotes with
  | members hname hoperand =>
    exact .members (hvalues hname) fun operand hmem => hvalues (hoperand operand hmem)

/-- A text is decoded as a command exactly if its value stands for the command. So the members of an object, its
    name among them, can come in any order. -/
theorem decode_accepts_format (text : List UInt8) :
    (∀ command, decode text = .ok command ↔ ∃ value, Json.decode text = .ok value ∧ Denotes value command) ∧
    ∀ other members others, Json.decode text = .ok (.object members) → Json.decode other = .ok (.object others) →
      members.Perm others → ∀ command, decode text = .ok command ↔ decode other = .ok command := by
  refine ⟨fun command => decode_eq_ok_iff, fun other members others htext hother hperm command => ?_⟩
  rw [decode_eq_ok_iff, decode_eq_ok_iff, htext, hother]
  constructor
  · rintro ⟨_, hvalue, hdenotes⟩
    obtain rfl := Except.ok.inj hvalue
    exact ⟨_, rfl, hdenotes.of_perm hperm⟩
  · rintro ⟨_, hvalue, hdenotes⟩
    obtain rfl := Except.ok.inj hvalue
    exact ⟨_, rfl, hdenotes.of_perm hperm.symm⟩

/-- The operand comes before the name, with a member between them that is passed over. -/
theorem decode_of_operand_before_name :
    decode (Utf8.encode "\x7b\"token\": \"t\", \"x\": [1], \"cmd\": \"setToken\"\x7d") = .ok (.setToken "t") ∧
      decode (Utf8.encode "\x7b\"x\": [1], \"cmd\": \"setToken\", \"token\": \"t\"\x7d") = .ok (.setToken "t") := by
  have htext : Json.decode (Utf8.encode "\x7b\"token\": \"t\", \"x\": [1], \"cmd\": \"setToken\"\x7d") =
      .ok (.object [("token", .text "t"), ("x", .array [.number (.integer 1)]), ("cmd", .text "setToken")]) := by
    cbv
  have hother : Json.decode (Utf8.encode "\x7b\"x\": [1], \"cmd\": \"setToken\", \"token\": \"t\"\x7d") =
      .ok (.object [("x", .array [.number (.integer 1)]), ("cmd", .text "setToken"), ("token", .text "t")]) := by
    cbv
  obtain ⟨haccepted, hreordered⟩ := decode_accepts_format _
  have hdecode := (haccepted (.setToken "t")).mpr
    ⟨_, htext, .members rfl fun operand hmem => Option.some.inj hmem ▸ rfl⟩
  have hperm := (List.perm_append_singleton ("token", Json.text "t")
    [("x", .array [.number (.integer 1)]), ("cmd", .text "setToken")]).symm
  exact ⟨hdecode, (hreordered _ _ _ htext hother hperm _).mp hdecode⟩

end RobotAdmin.Command
