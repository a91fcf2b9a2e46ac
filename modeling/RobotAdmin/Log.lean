namespace RobotAdmin

/-- How much a log event matters. -/
inductive Log.Level where
  | error
  | info
  | debug
  deriving DecidableEq, Repr

structure Log.Event where
  level : Log.Level
  text : String
  deriving DecidableEq, Repr

/-- The events of a run in the order in which they happened. -/
abbrev Log := List Log.Event

namespace Log

def Level.name : Level → String
  | .error => "ERROR"
  | .info => "INFO"
  | .debug => "DEBUG"

/-- The events that are shown; those for debugging only on demand. -/
def shown (verbose : Bool) (log : Log) : Log :=
  log.filter fun event => verbose || event.level != .debug

/-- The errors of a log. -/
def errors (log : Log) : Log := log.filter fun event => event.level == .error

/-- The characters that could steer a terminal: escape, bell, backspace, form feed, delete and the control
    characters beyond ASCII. -/
def Steers (c : Char) : Prop :=
  c ∈ ['\x1b', '\x07', '\x08', '\x0c', '\x7f'] ∨ 0x80 ≤ c.toNat ∧ c.toNat ≤ 0x9F

instance (c : Char) : Decidable (Steers c) := inferInstanceAs (Decidable (_ ∨ _))

/-- A character as the log shows it. Those that could steer a terminal are made visible. -/
def visible (c : Char) : List Char :=
  if c = '\x1b' then ['\\', 'x', '1', 'b']
  else if c = '\x07' then ['\\', 'x', '0', '7']
  else if c = '\x08' then ['\\', 'x', '0', '8']
  else if c = '\x0c' then ['\\', 'x', '0', 'c']
  else if c = '\x7f' then ['\\', 'x', '7', 'f']
  else if 0x80 ≤ c.toNat ∧ c.toNat ≤ 0x9F then
    ['\\', 'u', '\x7b'] ++ Nat.toDigits 16 c.toNat ++ ['\x7d']
  else [c]

/-- An event as a terminal gets it. -/
def Event.written (event : Event) : Event :=
  { event with text := String.ofList (event.text.toList.flatMap visible) }

/-- An event whose text a terminal gets as it is. -/
def Event.IsPlain (event : Event) : Prop := ∀ c ∈ event.text.toList, ¬Steers c

theorem visible_of_not_steers {c : Char} (hplain : ¬Steers c) : visible c = [c] := by
  simp only [Steers, List.mem_cons, List.not_mem_nil, or_false, not_or] at hplain
  obtain ⟨⟨hescape, hbell, hback, hfeed, herased⟩, hbeyond⟩ := hplain
  rw [visible, if_neg hescape, if_neg hbell, if_neg hback, if_neg hfeed, if_neg herased, if_neg hbeyond]

/-- How the number of a character is shown in place of it: by its two digits, in braces beyond ASCII. -/
def escape (n : Nat) : List Char :=
  if n < 0x80 then ['\\', 'x', (n / 16).digitChar, (n % 16).digitChar]
  else ['\\', 'u', '\x7b', (n / 16).digitChar, (n % 16).digitChar, '\x7d']

theorem visible_of_steers {c : Char} (hsteers : Steers c) : visible c = escape c.toNat := by
  obtain hascii | ⟨hlow, hhigh⟩ := hsteers
  · simp only [List.mem_cons, List.not_mem_nil, or_false] at hascii
    obtain rfl | rfl | rfl | rfl | rfl := hascii <;> rfl
  · have hdigits : ∀ n < 0xA0, 0x80 ≤ n → ['\\', 'u', '\x7b'] ++ Nat.toDigits 16 n ++ ['\x7d'] = escape n := by
      decide +kernel
    have hne (d : Char) (hd : d.toNat < 0x80) : c ≠ d := by
      rintro rfl
      omega
    rw [visible, if_neg (hne _ (by decide)), if_neg (hne _ (by decide)), if_neg (hne _ (by decide)),
      if_neg (hne _ (by decide)), if_neg (hne _ (by decide)), if_pos ⟨hlow, hhigh⟩]
    exact hdigits _ (by omega) hlow

theorem Steers.toNat_lt {c : Char} (hsteers : Steers c) : c.toNat < 0xA0 := by
  obtain hascii | ⟨_, hhigh⟩ := hsteers
  · simp only [List.mem_cons, List.not_mem_nil, or_false] at hascii
    obtain rfl | rfl | rfl | rfl | rfl := hascii <;> decide
  · omega

/-- What a character is shown as could not steer a terminal. -/
theorem not_steers_of_mem_visible {c d : Char} (hd : d ∈ visible c) : ¬Steers d := by
  by_cases hsteers : Steers c
  · have hplain : ∀ n < 0xA0, ((escape n).all fun d => !decide (Steers d)) = true := by decide +kernel
    rw [visible_of_steers hsteers] at hd
    simpa using List.all_eq_true.mp (hplain _ hsteers.toNat_lt) d hd
  · rw [visible_of_not_steers hsteers] at hd
    rwa [List.mem_singleton.mp hd]

theorem flatMap_visible {chars : List Char} (hplain : ∀ c ∈ chars, ¬Steers c) : chars.flatMap visible = chars := by
  induction chars with
  | nil => rfl
  | cons c chars ih =>
    obtain ⟨hc, hchars⟩ := List.forall_mem_cons.mp hplain
    rw [List.flatMap_cons, visible_of_not_steers hc, ih hchars, List.singleton_append]

theorem Event.written_of_isPlain {event : Event} (hplain : event.IsPlain) : event.written = event := by
  rw [written, flatMap_visible hplain, String.ofList_toList]

theorem Event.isPlain_written (event : Event) : event.written.IsPlain := by
  intro d hd
  rw [written, String.toList_ofList, List.mem_flatMap] at hd
  obtain ⟨c, _, hd⟩ := hd
  exact not_steers_of_mem_visible hd

/-- The errors that a terminal gets are the errors of the log. -/
theorem errors_map_written (log : Log) : errors (log.map Event.written) = (errors log).map Event.written := by
  rw [errors, errors, List.filter_map]
  rfl

end Log

end RobotAdmin
