import RobotAdmin.Proofs.CommandLine.Telling

namespace RobotAdmin.CommandLine

/-- The words of a command line, in their order, with flags anywhere between them. -/
inductive Placement : List Flag → List String → List Word → Prop where
  | nil : Placement [] [] []
  | flag {flags texts words} (flag : Flag) (rest : Placement flags texts words) :
      Placement (flag :: flags) texts (flag.word :: words)
  | word {flags texts words} (text : String) (rest : Placement flags texts words) :
      Placement flags (text :: texts) (Utf8.encode text :: words)

/-- The bytes of a text begin with a dash only if the text does. -/
theorem head?_encode_ne_dash {text : String} (htext : text.toList.head? ≠ some '-') :
    (Utf8.encode text).head? ≠ some '-'.toUInt8 := by
  unfold Utf8.encode
  cases hchars : text.toList with
  | nil => simp
  | cons c chars =>
    obtain ⟨b, bytes, hc⟩ := Utf8.exists_cons_utf8EncodeChar c
    rw [Utf8.encodeChars_cons, hc, List.cons_append, List.head?_cons]
    intro hdash
    obtain rfl := Option.some.inj hdash
    have hdashNat : ('-'.toUInt8).toNat = '-'.toNat := by decide
    rcases Utf8.toNat_first hc with hsame | hhigh
    · rw [hchars, Char.toNat_inj.mp (hsame.symm.trans hdashNat)] at htext
      exact htext rfl
    · exact absurd hhigh (by decide)

namespace Level

/-- A level takes a text for its operand. -/
def Reads (level : Level) (text : String) (operand : Operand) : Prop :=
  match level with
  | .setToken | .setRobot | .configSetServer => operand = .text text
  | .configSetTimeout => ∃ secs, operand = .count secs ∧ Numeral.Spells text secs.toNat
  | _ => False

theorem child?_name (level : Level) : ∀ child ∈ level.children, level.child? (Utf8.encode child.name) = some child := by
  cases level <;> decide

namespace Reads

variable {level : Level} {text : String} {operand : Operand}

theorem isSome_operand? (hreads : level.Reads text operand) : level.operand?.isSome = true := by
  cases level <;> first | rfl | exact hreads.elim

theorem child?_eq_none (hreads : level.Reads text operand) (word : Word) : level.child? word = none := by
  cases level <;> first | rfl | exact hreads.elim

theorem fill (hreads : level.Reads text operand) (state : State) :
    state.fill level (Utf8.encode text) .operand = .ok { state with operand := some operand } := by
  have hraw := Utf8.decode?_encode text
  cases level with
  | setToken | setRobot | configSetServer =>
    obtain rfl : operand = .text text := hreads
    exact State.fill_operand_text (by decide) hraw
  | configSetTimeout =>
    obtain ⟨secs, rfl, hspells⟩ := hreads
    exact State.fill_operand_count hraw (Numeral.ofText?_of_spells hspells)
  | program | updateFirmware | config | help | configView | configReset | configHelp => exact hreads.elim

theorem step_dashes (hreads : level.Reads text operand) (state : State) :
    step level state false (Utf8.encode "--") = .ok (.stay state true) := by
  have hdashes : Utf8.encode "--" = ['-'.toUInt8, '-'.toUInt8] := by decide
  rw [step, if_neg Bool.false_ne_true, hreads.child?_eq_none, ite_self]
  dsimp only
  rw [hdashes, takeWord_dashes]

end Reads

end Level

/-- From a level, words and then a tail lead to a task. The operand is what was met of it before them. -/
inductive Leads : Level → Option Operand → List String → List String → Task → Prop where
  | done {level operand task} (htask : task? level operand = some task) : Leads level operand [] [] task
  | operand {level text operand task} (hreads : level.Reads text operand) (htext : text.toList.head? ≠ some '-')
      (htask : task? level (some operand) = some task) : Leads level none [text] [] task
  | behindDashes {level text operand task} (hreads : level.Reads text operand)
      (htask : task? level (some operand) = some task) : Leads level none [] ["--", text] task
  | call {level child texts tail task} (hchild : child ∈ level.children) (hhelp : child.isHelp = false)
      (hrest : Leads child none texts tail task) : Leads level none (child.name :: texts) tail task

theorem Leads.isHelp_eq_false {level : Level} {operand : Option Operand} {texts tail : List String} {task : Task}
    (hleads : Leads level operand texts tail task) : level.isHelp = false := by
  cases hleads with
  | done htask => cases level <;> first | rfl | cases htask
  | operand hreads => cases level <;> first | rfl | exact hreads.elim
  | behindDashes hreads => cases level <;> first | rfl | exact hreads.elim
  | call hchild => cases level <;> first | rfl | cases hchild

/-- The state after the operand was met. -/
def State.withOperand (state : State) (operand : Operand) : State :=
  { state with operand := some operand, used := state.used ++ [.operand] }

/-- How far a level has been read: what was met of its operand is in the slots once the pending one is taken, and flags
    may follow. -/
structure Reached (level : Level) (operand : Option Operand) (flags : List Flag) (state settled : State) : Prop where
  settles : state.settle level = .ok settled
  pending : settled.pending = none
  met : settled.operand = operand
  vacant : operand = none → state = settled ∧ .operand ∉ settled.used
  free : ∀ flag ∈ flags, .switch flag.switch ∉ settled.used

namespace Reached

variable {level : Level} {operand : Option Operand} {flags : List Flag} {state settled : State}

theorem of_empty (level : Level) (flags : List Flag) : Reached level none flags {} {} :=
  ⟨rfl, rfl, rfl, fun _ => ⟨rfl, List.not_mem_nil⟩, fun _ _ => List.not_mem_nil⟩

theorem finish_eq (hreached : Reached level operand [] state settled) {task : Task}
    (htask : task? level operand = some task) :
    finish level state = .ok ((gathered [] task).under settled) := by
  rw [finish, hreached.settles]
  dsimp only
  rw [hreached.met, htask]
  rfl

theorem withFlag {flag : Flag} (hreached : Reached level operand (flag :: flags) state settled)
    (honce : flag.switch ∉ flags.map Flag.switch) :
    Reached level operand flags (settled.withFlag flag) (settled.withFlag flag) := by
  have hpending : (settled.withFlag flag).pending = none := (State.pending_withFlag ..).trans hreached.pending
  refine ⟨State.settle_of_pending_none hpending, hpending, (State.operand_withFlag ..).trans hreached.met, ?_, ?_⟩
  · intro hvacant
    rw [State.used_withFlag]
    exact ⟨rfl, by simpa using (hreached.vacant hvacant).2⟩
  · intro other hmem
    have hother : other.switch ≠ flag.switch := fun hsame => honce (hsame ▸ List.mem_map_of_mem hmem)
    rw [State.used_withFlag]
    simpa [hother] using hreached.free other (List.mem_cons_of_mem flag hmem)

/-- A text for the operand is left pending where none has been met. -/
theorem takeOperand_eq (hreached : Reached level none flags state settled) {text : String} {operand : Operand}
    (hreads : level.Reads text operand) (trailing : Bool) :
    ∃ next, takeOperand level state trailing (Utf8.encode text) = .ok next ∧
      Reached level (some operand) flags next (settled.withOperand operand) := by
  obtain ⟨rfl, hunused⟩ := hreached.vacant rfl
  have hnone : state.hasOperand = false := by simp [State.hasOperand, hunused, hreached.pending]
  have hback : { state with pending := none } = state := by rw [← hreached.pending]
  refine ⟨{ state with pending := some (.operand, some (Utf8.encode text)) }, ?_, ?_, hreached.pending, rfl, ?_, ?_⟩
  · rw [takeOperand, hreads.isSome_operand?, hnone, State.await, hreached.settles]
    rfl
  · rw [State.settle]
    dsimp only
    rw [hback, State.take_operand (hreads.fill state), State.withOperand]
  · intro hvacant
    cases hvacant
  · intro flag hmem
    simpa [State.withOperand] using hreached.free flag hmem

theorem step_flag {flag : Flag} (hlevel : level.isHelp = false)
    (hreached : Reached level operand (flag :: flags) state settled) :
    step level state false flag.word = .ok (.stay (settled.withFlag flag) false) :=
  step_word hlevel hreached.settles (hreached.free flag List.mem_cons_self)

theorem step_operand (hreached : Reached level none flags state settled) {text : String} {operand : Operand}
    (hreads : level.Reads text operand) (htext : text.toList.head? ≠ some '-') :
    ∃ next, step level state false (Utf8.encode text) = .ok (.stay next false) ∧
      Reached level (some operand) flags next (settled.withOperand operand) := by
  obtain ⟨next, hnext, hreached'⟩ := hreached.takeOperand_eq hreads false
  obtain ⟨rfl, -⟩ := hreached.vacant rfl
  refine ⟨next, ?_, hreached'⟩
  rw [step, if_neg Bool.false_ne_true, hreads.child?_eq_none, ite_self]
  dsimp only
  rw [takeWord_plain (head?_encode_ne_dash htext) hreached.pending, hnext]
  rfl

theorem step_behindDashes (hreached : Reached level none flags state settled) {text : String} {operand : Operand}
    (hreads : level.Reads text operand) :
    ∃ next, step level state true (Utf8.encode text) = .ok (.stay next true) ∧
      Reached level (some operand) flags next (settled.withOperand operand) := by
  obtain ⟨next, hnext, hreached'⟩ := hreached.takeOperand_eq hreads true
  refine ⟨next, ?_, hreached'⟩
  rw [step, if_pos rfl, hnext]
  rfl

theorem step_call (hreached : Reached level none flags state settled) {child : Level} (hchild : child ∈ level.children) :
    step level state false (Utf8.encode child.name) = .ok (.call child) := by
  obtain ⟨rfl, -⟩ := hreached.vacant rfl
  rw [step, if_neg Bool.false_ne_true, State.awaitsValue_of_pending_none hreached.pending, if_neg Bool.false_ne_true,
    level.child?_name child hchild]

end Reached

/-- The words that lead to a task are read as that task, wherever flags stand between them, and each flag is found as if
    it stood at the level where the words begin. -/
theorem parseAt_of_leads {flags : List Flag} {texts : List String} {words : List Word}
    (hplaced : Placement flags texts words) : ∀ {level operand tail task state settled},
    Leads level operand texts tail task → (flags.map Flag.switch).Nodup → Reached level operand flags state settled →
    parseAt level state false (words ++ tail.map Utf8.encode) = .ok ((gathered flags task).under settled) := by
  induction hplaced with
  | nil =>
    intro level operand tail task state settled hleads _ hreached
    cases hleads with
    | done htask => exact hreached.finish_eq htask
    | behindDashes hreads htask =>
      obtain ⟨next, hstep, hnext⟩ := hreached.step_behindDashes hreads
      rw [List.nil_append, List.map_cons, List.map_cons, List.map_nil, parseAt, hreads.step_dashes]
      dsimp only
      rw [parseAt, hstep]
      exact hnext.finish_eq htask
  | flag flag rest ih =>
    intro level operand tail task state settled hleads honce hreached
    obtain ⟨hfirst, honce⟩ := List.nodup_cons.mp honce
    rw [List.cons_append, parseAt, hreached.step_flag hleads.isHelp_eq_false]
    dsimp only
    rw [ih hleads honce (hreached.withFlag hfirst), gathered_under_withFlag hfirst]
  | word text rest ih =>
    intro level operand tail task state settled hleads honce hreached
    cases hleads with
    | operand hreads htext htask =>
      obtain ⟨next, hstep, hnext⟩ := hreached.step_operand hreads htext
      have hrest := ih (.done htask) honce hnext
      rw [List.cons_append, parseAt, hstep]
      exact hrest
    | @call _ child _ _ _ hchild hhelp hleads =>
      -- Below, nothing is met as yet, so the flags that follow are found there and those before it here.
      have hrest := ih hleads honce (.of_empty child _)
      rw [List.cons_append, parseAt, hreached.step_call hchild]
      dsimp only
      rw [hhelp, if_neg Bool.false_ne_true, hrest, under_empty, hreached.settles]

namespace Task

/-- The level at which a task is asked for. -/
def level : Task → Level
  | .send .updateFirmware => .updateFirmware
  | .send (.setToken _) => .setToken
  | .send (.setRobot _) => .setRobot
  | .configure none => .config
  | .configure (some .view) => .configView
  | .configure (some (.setServer _)) => .configSetServer
  | .configure (some (.setTimeout _)) => .configSetTimeout
  | .configure (some .reset) => .configReset

variable {task : Task}

theorem leads_calls {texts tail : List String} (hrest : Leads task.level none texts tail task) :
    Leads .program none (task.calls ++ texts) tail task := by
  have hcall {level child : Level} (hchild : level.children.contains child = true) (hhelp : child.isHelp = false)
      {texts : List String} (hrest : Leads child none texts tail task) :
      Leads level none (child.name :: texts) tail task := .call (List.contains_iff_mem.mp hchild) hhelp hrest
  cases task with
  | send command => cases command <;> exact hcall rfl rfl hrest
  | configure action =>
    have hconfig {texts : List String} (hrest : Leads .config none texts tail _) :
        Leads .program none ("config" :: texts) tail _ := hcall rfl rfl hrest
    cases action with
    | none => exact hconfig hrest
    | some action => cases action <;> exact hconfig (hcall rfl rfl hrest)

theorem task?_level (hoperand : task.HasOperand none) : task? task.level none = some task := by
  cases task with
  | send command => cases command <;> first | rfl | cases hoperand
  | configure action =>
    cases action with
    | none => rfl
    | some action =>
      cases action with
      | view => rfl
      | setServer url => cases hoperand
      | setTimeout secs =>
        obtain ⟨_, hnone, _⟩ := hoperand
        cases hnone
      | reset => rfl

theorem exists_reads {text : String} (hoperand : task.HasOperand (some text)) :
    ∃ operand, task.level.Reads text operand ∧ task? task.level (some operand) = some task := by
  cases task with
  | send command =>
    cases command with
    | updateFirmware => cases hoperand
    | setToken token =>
      obtain rfl := Option.some.inj hoperand
      exact ⟨.text text, rfl, rfl⟩
    | setRobot robot =>
      obtain rfl := Option.some.inj hoperand
      exact ⟨.text text, rfl, rfl⟩
  | configure action =>
    cases action with
    | none => cases hoperand
    | some action =>
      cases action with
      | view => cases hoperand
      | setServer url =>
        obtain rfl := Option.some.inj hoperand
        exact ⟨.text text, rfl, rfl⟩
      | setTimeout secs =>
        obtain ⟨_, htext, hspells⟩ := hoperand
        obtain rfl := Option.some.inj htext
        exact ⟨.count secs, ⟨secs, rfl, hspells⟩, rfl⟩
      | reset => cases hoperand

/-- The words for a task, and its operand if that does not begin with a dash, lead to it. -/
theorem leads {operand : Option String} (hoperand : task.HasOperand operand)
    (hdash : ∀ text ∈ operand, text.toList.head? ≠ some '-') :
    Leads .program none (task.calls ++ operand.toList) [] task := by
  cases operand with
  | none => exact leads_calls (.done (task?_level hoperand))
  | some text =>
    obtain ⟨operand, hreads, htask⟩ := exists_reads hoperand
    exact leads_calls (.operand hreads (hdash text rfl) htask)

theorem leads_behindDashes {text : String} (hoperand : task.HasOperand (some text)) :
    Leads .program none task.calls ["--", text] task := by
  obtain ⟨operand, hreads, htask⟩ := exists_reads hoperand
  have hcalls := leads_calls (.behindDashes hreads htask)
  rwa [List.append_nil] at hcalls

end Task

/-- Flags mean the same wherever they stand. Any command line can be told, and it is what is read of the words for its
    task and its flags, in every order of the flags and wherever each of them stands between the words. The operand may
    also come last behind two dashes, and may then begin with a dash itself. -/
theorem parse_of_placement (line : CommandLine) :
    (∃ flags operand, line.ToldBy flags ∧ line.task.HasOperand operand) ∧
      ∀ flags, line.ToldBy flags →
        (∀ operand words, line.task.HasOperand operand → (∀ text ∈ operand, text.toList.head? ≠ some '-') →
          Placement flags (line.task.calls ++ operand.toList) words → parse words = .ok line) ∧
        ∀ text words, line.task.HasOperand (some text) → Placement flags line.task.calls words →
          parse (words ++ [Utf8.encode "--", Utf8.encode text]) = .ok line := by
  obtain ⟨operand, hoperand⟩ := line.task.exists_hasOperand
  refine ⟨⟨line.flags, operand, line.toldBy_flags, hoperand⟩, fun flags htold => ⟨?_, ?_⟩⟩
  · intro operand words hoperand hdash hplaced
    have hread := parseAt_of_leads hplaced (Task.leads hoperand hdash) htold.once (.of_empty .program flags)
    rwa [List.map_nil, List.append_nil, under_empty, htold.gathered_eq] at hread
  · intro text words hoperand hplaced
    have hread := parseAt_of_leads hplaced (Task.leads_behindDashes hoperand) htold.once (.of_empty .program flags)
    rwa [under_empty, htold.gathered_eq] at hread

/-- Flags before, between and behind the words of a command line, and an operand that begins with a dash. -/
theorem parse_of_placement_between :
    parse (["--json", "config", "--server=http://h", "set-timeout", "--timeout=+7", "05", "--verbose"].map Utf8.encode) =
        .ok ⟨some "http://h", some 7, true, true, .configure (some (.setTimeout 5))⟩ ∧
      parse (["set-token", "--verbose", "--", "-x"].map Utf8.encode) =
        .ok ⟨none, none, true, false, .send (.setToken "-x")⟩ := by
  have hfive : Numeral.Spells "05" 5 := ⟨[], ['0', '5'], rfl, .inl rfl, nofun, by simp, rfl⟩
  have hseven : Numeral.Spells "+7" 7 := ⟨['+'], ['7'], rfl, .inr rfl, nofun, by simp, rfl⟩
  constructor
  · have htold : ToldBy ⟨some "http://h", some 7, true, true, .configure (some (.setTimeout 5))⟩
        [.json, .server "http://h", .timeout 7 ⟨"+7", hseven⟩, .verbose] := by
      refine ⟨by simp [Flag.switch], by simp [eq_comm], fun secs => ⟨?_, ?_⟩, by simp, by simp⟩
      · rintro ⟨spelling, hmem⟩
        simp_all
      · rintro ⟨⟩
        exact ⟨⟨"+7", hseven⟩, by simp⟩
    have hplaced : Placement [.json, .server "http://h", .timeout 7 ⟨"+7", hseven⟩, .verbose]
        ["config", "set-timeout", "05"] _ :=
      .flag _ (.word _ (.flag _ (.word _ (.flag _ (.word _ (.flag _ .nil))))))
    exact ((parse_of_placement _).2 _ htold).1 (some "05") _ ⟨"05", rfl, hfive⟩ (by decide) hplaced
  · have htold : ToldBy ⟨none, none, true, false, .send (.setToken "-x")⟩ [.verbose] := by
      refine ⟨by decide, by simp, by simp, by simp, by simp⟩
    have hplaced : Placement [.verbose] ["set-token"] _ := .word _ (.flag _ .nil)
    exact ((parse_of_placement _).2 _ htold).2 "-x" _ rfl hplaced

end RobotAdmin.CommandLine
