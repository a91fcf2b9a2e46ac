import RobotAdmin.Proofs.Json.Normal
import RobotAdmin.Proofs.Json.Opening

namespace RobotAdmin.Json

section

variable {α σ : Type}

/-- The members that are read from a place in an object up to its closing brace, each value by the same reader. -/
inductive ReadsMembers (read : Reader α) : Bool → List UInt8 → List (String × α) → List UInt8 → Prop where
  | stop {first : Bool} {input : List UInt8} (hstop : nextName first input = .ok none) :
      ReadsMembers read first input [] input
  | next {first : Bool} {input : List UInt8} {name : Taken String input} {value : α} {rest last : List UInt8}
      {members : List (String × α)} (hname : nextName first input = .ok (some name))
      (hvalue : Reads (readMember read) name.rest value rest) (hmore : ReadsMembers read false rest members last) :
      ReadsMembers read first input ((name.value, value) :: members) last

/-- A reader takes exactly what another takes and a pure function accepts. -/
def Narrows {β : Type} (narrow : Reader β) (read : Reader α) (accept? : α → Option β) : Prop :=
  ∀ input result rest, Reads narrow input result rest ↔
    ∃ value, Reads read input value rest ∧ accept? value = some result

/-- A step takes a member exactly if the reader takes its value and the pure function accepts it. -/
def StepsBy (read : Reader α) (step : σ → String → Reader σ) (take? : σ → String × α → Option σ) : Prop :=
  ∀ state name, Narrows (step state name) (readMember read) fun value => take? state (name, value)

theorem Narrows.all (read : Reader α) : Narrows read read some := by
  intro input result rest
  simp

theorem Narrows.readMember {β : Type} {narrow : Reader β} {read : Reader α} {accept? : α → Option β}
    (hnarrow : Narrows narrow read accept?) : Narrows (readMember narrow) (readMember read) accept? := by
  intro input result rest
  simp only [reads_readMember_iff, hnarrow _ _ _]
  constructor
  · rintro ⟨behind, hcolon, value, hread, haccept⟩
    exact ⟨value, ⟨behind, hcolon, hread⟩, haccept⟩
  · rintro ⟨value, ⟨behind, hcolon, hread⟩, haccept⟩
    exact ⟨behind, hcolon, value, hread, haccept⟩

theorem Narrows.map {β γ : Type} {narrow : Reader β} {step : Reader γ} {read : Reader α} {accept? : α → Option β}
    {f : β → γ} (hnarrow : Narrows narrow read accept?) (hstep : ∀ input, step input = (narrow input).map (·.map f)) :
    Narrows step read fun value => (accept? value).map f := by
  intro input result rest
  simp only [reads_map_iff (hstep input), hnarrow _ _ _, Option.map_eq_some_iff]
  constructor
  · rintro ⟨found, ⟨value, hread, haccept⟩, hresult⟩
    exact ⟨value, hread, found, haccept, hresult⟩
  · rintro ⟨value, hread, found, haccept, hresult⟩
    exact ⟨found, ⟨value, hread, haccept⟩, hresult⟩

variable {read : Reader α} {step : σ → String → Reader σ} {take? : σ → String × α → Option σ}

/-- Members that are read by steps are read one by one, and all of them are accepted. -/
theorem readsMembers_of_foldMembers (hstep : StepsBy read step take?) {whole input : List UInt8} {state final : σ}
    {first : Bool} {hinput : input.length ≤ whole.length} {last : Rest whole}
    (hfold : foldMembers step whole state first input hinput = .ok (final, last)) :
    ∃ members, ReadsMembers read first input members last.val ∧ members.foldlM take? state = some final := by
  fun_induction foldMembers step whole state first input hinput with
  | case1 => cases hfold
  | case2 state first input hinput hstop =>
    obtain ⟨rfl, rfl⟩ := Prod.mk.inj (Except.ok.inj hfold)
    exact ⟨[], .stop hstop, rfl⟩
  | case3 => cases hfold
  | case4 state first input hinput name hname member hmember _ ih =>
    obtain ⟨value, hvalue, htake⟩ := (hstep _ _ _ _ _).mp ⟨member.shorter, hmember⟩
    obtain ⟨members, hmembers, hfinal⟩ := ih hfold
    exact ⟨_, .next hname hvalue hmembers, by simp [htake, hfinal]⟩

theorem foldMembers_of_readsMembers (hstep : StepsBy read step take?) {whole input last : List UInt8}
    {members : List (String × α)} {state final : σ} {first : Bool}
    (hmembers : ReadsMembers read first input members last) (hfinal : members.foldlM take? state = some final)
    (hinput : input.length ≤ whole.length) :
    ∃ hlast, foldMembers step whole state first input hinput = .ok (final, ⟨last, hlast⟩) := by
  induction hmembers generalizing state with
  | stop hstop =>
    obtain rfl := Option.some.inj hfinal
    exact ⟨hinput, by rw [foldMembers, hstop]⟩
  | @next first input name value rest last members hname hvalue _ ih =>
    rw [List.foldlM_cons] at hfinal
    obtain ⟨next, htake, hmore⟩ := Option.bind_eq_some_iff.mp hfinal
    obtain ⟨hrest, hmember⟩ := (hstep _ _ _ _ _).mpr ⟨value, hvalue, htake⟩
    have hshorter := name.shorter
    obtain ⟨hlast, hfold⟩ := ih hmore (by omega)
    refine ⟨hlast, ?_⟩
    rw [foldMembers, hname]
    dsimp only
    rw [hmember]
    exact hfold

/-- An object that is read from behind its brace to behind the closing one. -/
def ReadsObject (read : Reader α) (input : List UInt8) (members : List (String × α)) (rest : List UInt8) : Prop :=
  ∃ last, ReadsMembers read true input members last ∧ Reads closeObject last () rest

theorem reads_readObject_iff (hstep : StepsBy read step take?) {start : σ} {β : Type} {finish : σ → Except Problem β}
    {input rest : List UInt8} {value : β} :
    Reads (readObject start step finish) input value rest ↔
      ∃ members, ReadsObject read input members rest ∧
        ∃ state, members.foldlM take? start = some state ∧ finish state = .ok value := by
  constructor
  · rintro ⟨_, hread⟩
    rw [readObject] at hread
    split at hread
    · cases hread
    · rename_i state last hfold
      obtain ⟨members, hmembers, hstate⟩ := readsMembers_of_foldMembers hstep hfold
      split at hread
      · cases hread
      · rename_i found hfinish
        obtain ⟨closed, hclose, hsame⟩ := exists_of_map_eq_ok hread
        obtain ⟨rfl, rfl⟩ := Taken.mk.inj hsame
        exact ⟨members, ⟨last.val, hmembers, closed.shorter, hclose⟩, state, hstate, hfinish⟩
  · rintro ⟨members, ⟨last, hmembers, hclose⟩, state, hstate, hfinish⟩
    obtain ⟨hlast, hfold⟩ := foldMembers_of_readsMembers hstep hmembers hstate (Nat.le_refl input.length)
    obtain ⟨shorter, hclose⟩ := hclose
    refine ⟨Nat.lt_of_lt_of_le shorter hlast, ?_⟩
    rw [readObject, hfold]
    simp only [hfinish, hclose]
    rfl

/-- The items that are read from a place in an array up to its closing bracket, each by the same reader. -/
inductive ReadsItems (read : Reader α) : Bool → List UInt8 → List α → List UInt8 → Prop where
  | stop {first : Bool} {input : List UInt8} (hstop : nextItem first input = .ok none) :
      ReadsItems read first input [] input
  | next {first : Bool} {input : List UInt8} {start : Rest input} {item : α} {rest last : List UInt8} {items : List α}
      (hstart : nextItem first input = .ok (some start)) (hitem : Reads read start.val item rest)
      (hmore : ReadsItems read false rest items last) : ReadsItems read first input (item :: items) last

/-- An array that is read from behind its bracket to behind the closing one. -/
def ReadsArray (read : Reader α) (input : List UInt8) (items : List α) (rest : List UInt8) : Prop :=
  ∃ last, ReadsItems read true input items last ∧ Reads closeArray last () rest

theorem readsItems_of_readItemsFrom {whole input : List UInt8} {before : List α} {first : Bool}
    {hinput : input.length ≤ whole.length} {taken : Taken (List α) whole}
    (hread : readItemsFrom read whole before first input hinput = .ok taken) :
    ∃ items last, ReadsItems read first input items last ∧ Reads closeArray last () taken.rest ∧
      taken.value = before.reverse ++ items := by
  fun_induction readItemsFrom read whole before first input hinput with
  | case1 => cases hread
  | case2 before first input hinput hstop =>
    obtain ⟨closed, hclose, rfl⟩ := exists_of_map_eq_ok hread
    exact ⟨[], input, .stop hstop, ⟨closed.shorter, hclose⟩, (List.append_nil _).symm⟩
  | case3 => cases hread
  | case4 before first input hinput start hstart item hitem _ ih =>
    obtain ⟨items, last, hitems, hclose, hvalue⟩ := ih hread
    exact ⟨_, last, .next hstart ⟨item.shorter, hitem⟩ hitems, hclose, by simp [hvalue]⟩

theorem readItemsFrom_of_readsItems {whole input last rest : List UInt8} {items : List α} {first : Bool}
    (hitems : ReadsItems read first input items last) (hclose : Reads closeArray last () rest) (before : List α)
    (hinput : input.length ≤ whole.length) :
    ∃ shorter, readItemsFrom read whole before first input hinput = .ok ⟨before.reverse ++ items, rest, shorter⟩ := by
  induction hitems generalizing before with
  | stop hstop =>
    obtain ⟨shorter, hclose⟩ := hclose
    refine ⟨Nat.lt_of_lt_of_le shorter hinput, ?_⟩
    rw [readItemsFrom, hstop]
    simp only [hclose, List.append_nil]
    rfl
  | @next first input start item behind last items hstart hitem _ ih =>
    obtain ⟨hbehind, hitem⟩ := hitem
    have hstartLength := start.property
    obtain ⟨shorter, hread⟩ := ih hclose (item :: before) (by omega)
    rw [List.reverse_cons, List.append_assoc, List.singleton_append] at hread
    refine ⟨shorter, ?_⟩
    rw [readItemsFrom, hstart]
    dsimp only
    rw [hitem]
    exact hread

theorem reads_readItems_iff {input rest : List UInt8} {items : List α} :
    Reads (readItems read) input items rest ↔ ReadsArray read input items rest := by
  constructor
  · rintro ⟨_, hread⟩
    obtain ⟨found, last, hitems, hclose, hvalue⟩ := readsItems_of_readItemsFrom hread
    obtain rfl : items = found := hvalue
    exact ⟨last, hitems, hclose⟩
  · rintro ⟨last, hitems, hclose⟩
    exact readItemsFrom_of_readsItems hitems hclose [] (Nat.le_refl input.length)

end

/-- The value that an opening shows to its end. -/
def Opening.scalar? : Opening → Option Json
  | .scalar value => some value
  | .array | .object => none

theorem Opening.scalar?_eq_some_iff {opening : Opening} {value : Json} :
    opening.scalar? = some value ↔ opening = .scalar value := by
  cases opening <;> simp [Opening.scalar?]

section

variable {input rest : List UInt8}

theorem isScalar_of_readOpening {value : Json} (hread : Reads readOpening input (.scalar value) rest) :
    value.IsScalar := by
  obtain ⟨shorter, hread⟩ := hread
  have hkeyword (word : Json) {letters : List UInt8} {b : UInt8} {behind : List UInt8}
      {hstart : (b :: behind).length ≤ input.length} (hword : word.IsScalar)
      (hfound : (keyword letters word b behind).map (·.from hstart) = .ok ⟨.scalar value, rest, shorter⟩) :
      value.IsScalar := by
    obtain ⟨_, hfound, hsame⟩ := exists_of_map_eq_ok hfound
    obtain ⟨_, _, rfl⟩ := exists_of_map_eq_ok hfound
    obtain rfl := Opening.scalar.inj (congrArg Taken.value hsame)
    exact hword
  unfold readOpening at hread
  split at hread
  · cases hread
  dsimp only at hread
  split at hread
  · exact hkeyword .null trivial hread
  split at hread
  · exact hkeyword (.bool true) trivial hread
  split at hread
  · exact hkeyword (.bool false) trivial hread
  split at hread
  · obtain ⟨_, _, hsame⟩ := exists_of_map_eq_ok hread
    obtain rfl := Opening.scalar.inj (congrArg Taken.value hsame)
    trivial
  split at hread
  · obtain ⟨_, _, hsame⟩ := exists_of_map_eq_ok hread
    obtain rfl := Opening.scalar.inj (congrArg Taken.value hsame)
    trivial
  split at hread
  · cases hread
  split at hread
  · cases hread
  · cases hread

theorem stepsBy_keepMember (read : Reader Json) :
    StepsBy read (keepMember read) fun members member => some (member :: members) := by
  intro members name
  exact (Narrows.all (readMember read)).map fun _ => rfl

theorem foldlM_some_cons {α : Type} (members before : List α) :
    members.foldlM (fun before member => some (member :: before)) before = some (members.reverse ++ before) := by
  induction members generalizing before with
  | nil => rfl
  | cons member members ih => simp [ih]

/-- Reading an object keeps all of its members. -/
theorem reads_readObject_keepMember_iff {read : Reader Json} {value : Json} :
    Reads (readObject [] (keepMember read) fun members => .ok (.object members.reverse)) input value rest ↔
      ∃ members, value = .object members ∧ ReadsObject read input members rest := by
  rw [reads_readObject_iff (stepsBy_keepMember read)]
  simp only [foldlM_some_cons, List.append_nil]
  constructor
  · rintro ⟨members, hmembers, _, hstate, hvalue⟩
    obtain rfl := Option.some.inj hstate
    rw [List.reverse_reverse] at hvalue
    exact ⟨members, (Except.ok.inj hvalue).symm, hmembers⟩
  · rintro ⟨members, rfl, hmembers⟩
    exact ⟨members, hmembers, _, rfl, by rw [List.reverse_reverse]⟩

/-- A value is one without parts, or an array or object that stands where there is room for it. -/
theorem reads_readValue_iff {room : Nat} {value : Json} :
    Reads (readValue room) input value rest ↔
      Reads readOpening input (.scalar value) rest ∨
        ∃ inner behind, room = inner + 1 ∧
          ((∃ items, value = .array items ∧ Reads readOpening input .array behind ∧
              ReadsArray (readValue inner) behind items rest) ∨
            ∃ members, value = .object members ∧ Reads readOpening input .object behind ∧
              ReadsObject (readValue inner) behind members rest) := by
  constructor
  · rintro ⟨shorter, hread⟩
    rw [readValue] at hread
    split at hread
    · cases hread
    rename_i opening hopening
    split at hread
    · rename_i hscalar
      obtain ⟨rfl, rfl⟩ := Taken.mk.inj (Except.ok.inj hread)
      exact .inl ⟨opening.shorter, by rw [hopening, ← hscalar]⟩
    · cases hread
    · rename_i inner harray
      obtain ⟨found, hitems, hsame⟩ := exists_of_map_eq_ok hread
      obtain ⟨rfl, rfl⟩ := Taken.mk.inj hsame
      have hopened : Reads readOpening input .array opening.rest := ⟨opening.shorter, by rw [hopening, ← harray]⟩
      exact .inr ⟨inner, opening.rest, rfl,
        .inl ⟨found.value, rfl, hopened, reads_readItems_iff.mp ⟨found.shorter, hitems⟩⟩⟩
    · rename_i inner hobject
      obtain ⟨found, hmembers, hsame⟩ := exists_of_map_eq_ok hread
      obtain ⟨rfl, rfl⟩ := Taken.mk.inj hsame
      obtain ⟨members, hvalue, hobject'⟩ := reads_readObject_keepMember_iff.mp ⟨found.shorter, hmembers⟩
      have hopened : Reads readOpening input .object opening.rest := ⟨opening.shorter, by rw [hopening, ← hobject]⟩
      exact .inr ⟨inner, opening.rest, rfl, .inr ⟨members, hvalue, hopened, hobject'⟩⟩
  · rintro (⟨shorter, hscalar⟩ | ⟨inner, behind, rfl, ⟨items, rfl, ⟨hbehind, harray⟩, hitems⟩ |
      ⟨members, rfl, ⟨hbehind, hobject⟩, hmembers⟩⟩)
    · refine ⟨shorter, ?_⟩
      rw [readValue, hscalar]
      rfl
    · obtain ⟨shorter, hread⟩ := reads_readItems_iff.mpr hitems
      refine ⟨Nat.lt_trans shorter hbehind, ?_⟩
      rw [readValue, harray]
      simp only [hread]
      rfl
    · obtain ⟨shorter, hread⟩ := reads_readObject_keepMember_iff.mpr ⟨members, rfl, hmembers⟩
      refine ⟨Nat.lt_trans shorter hbehind, ?_⟩
      rw [readValue, hobject]
      simp only [hread]
      rfl

theorem reads_readValue_iff_of_isScalar {room : Nat} {value : Json} (hscalar : value.IsScalar) :
    Reads (readValue room) input value rest ↔ Reads readOpening input (.scalar value) rest := by
  refine reads_readValue_iff.trans ⟨?_, .inl⟩
  rintro (hread | ⟨_, _, _, ⟨_, rfl, _⟩ | ⟨_, rfl, _⟩⟩)
  · exact hread
  · exact hscalar.elim
  · exact hscalar.elim

theorem reads_readValue_array_iff {room : Nat} {items : List Json} :
    Reads (readValue (room + 1)) input (.array items) rest ↔
      ∃ behind, Reads readOpening input .array behind ∧ ReadsArray (readValue room) behind items rest := by
  refine reads_readValue_iff.trans ⟨?_, ?_⟩
  · rintro (hscalar | ⟨_, behind, hroom, ⟨_, hvalue, hopening, hitems⟩ | ⟨_, hvalue, _⟩⟩)
    · exact (isScalar_of_readOpening hscalar).elim
    · obtain rfl := Nat.succ.inj hroom
      obtain rfl := array.inj hvalue
      exact ⟨behind, hopening, hitems⟩
    · cases hvalue
  · rintro ⟨behind, hopening, hitems⟩
    exact .inr ⟨room, behind, rfl, .inl ⟨items, rfl, hopening, hitems⟩⟩

theorem reads_readValue_object_iff {room : Nat} {members : List (String × Json)} :
    Reads (readValue (room + 1)) input (.object members) rest ↔
      ∃ behind, Reads readOpening input .object behind ∧ ReadsObject (readValue room) behind members rest := by
  refine reads_readValue_iff.trans ⟨?_, ?_⟩
  · rintro (hscalar | ⟨_, behind, hroom, ⟨_, hvalue, _⟩ | ⟨_, hvalue, hopening, hmembers⟩⟩)
    · exact (isScalar_of_readOpening hscalar).elim
    · cases hvalue
    · obtain rfl := Nat.succ.inj hroom
      obtain rfl := object.inj hvalue
      exact ⟨behind, hopening, hmembers⟩
  · rintro ⟨behind, hopening, hmembers⟩
    exact .inr ⟨room, behind, rfl, .inr ⟨members, rfl, hopening, hmembers⟩⟩

end

/-- Decodes a text of any kind of value. -/
def decode (text : List UInt8) : Except Refusal Json := readAll (readValue maxDepth) text

end RobotAdmin.Json
