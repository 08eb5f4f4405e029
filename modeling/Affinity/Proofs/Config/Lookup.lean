import Mathlib.Data.Nat.Digits.Defs
import Mathlib.Data.List.DropRight
import Affinity.Config.WorkersFile
/-!
Worker settings read from named variables, against the grammar of their values.

A count is written as an unsigned 64-bit word: an optional plus sign, then one or more ASCII
digits whose value in base ten is below 2^64 (`Text.IsWord`, stated with `Nat.ofDigits` and not
with the reader's loop). `Text.readWord` reads exactly these texts (`readWord_eq_some_iff`). A
text is blank, empty once trimmed, exactly when every character of it is white space
(`isBlankText_iff`).

Main statement: `lookup_settings_exact`. Reading settings through a lookup succeeds exactly when
each count present reads as a word once trimmed and the settings so read pass validation; the
settings are then the defaults with the counts and the untrimmed thread name put in. Otherwise
the error is that of the first check to fail, in the order worker count, stack size, blank
thread name, stack below `minStackSize`, and a count that does not read names its variable and
quotes the value as given. Settings read from TOML pass validation too.
-/

namespace Affinity

namespace Text

/-- The number that ASCII digits denote in base ten, the most significant first. -/
def decimalValue (ds : List Char) : Nat := Nat.ofDigits 10 (ds.reverse.map fun d => d.toNat - 48)

/-- `s` writes the unsigned 64-bit word `n`: an optional `+`, then one or more ASCII digits, of
    value below 2^64. -/
def IsWord (s : String) (n : Nat) : Prop :=
  ∃ ds : List Char, (s.toList = ds ∨ s.toList = '+' :: ds) ∧ ds ≠ [] ∧ (∀ d ∈ ds, d.isDigit) ∧
    n = decimalValue ds ∧ n < wordLimit

theorem decimalValue_cons (d : Char) (ds : List Char) :
    decimalValue (d :: ds) = (d.toNat - 48) * 10 ^ ds.length + decimalValue ds := by
  simp only [decimalValue, List.reverse_cons, List.map_append, List.map_cons, List.map_nil,
    Nat.ofDigits_append, Nat.ofDigits_singleton, List.length_map, List.length_reverse]
  ring

/-- The reader's loop, once a character is not a digit, reads nothing. -/
theorem foldl_digits_none (cs : List Char) :
    cs.foldl (fun acc d => acc.bind fun v => if d.isDigit then some (v * 10 + (d.toNat - 48)) else none)
      none = none := by
  induction cs with
  | nil => rfl
  | cons d cs ih => exact ih

/-- The reader's loop from the value `a` of the digits so far: it reads the rest when every
    character is a digit, shifting `a` past them. -/
theorem foldl_digits_some (cs : List Char) (a v : Nat) :
    cs.foldl (fun acc d => acc.bind fun v => if d.isDigit then some (v * 10 + (d.toNat - 48)) else none)
      (some a) = some v ↔ (∀ d ∈ cs, d.isDigit) ∧ v = a * 10 ^ cs.length + decimalValue cs := by
  induction cs generalizing a with
  | nil =>
    simp only [List.foldl_nil, Option.some.injEq, List.not_mem_nil, false_imp_iff, implies_true,
      true_and, List.length_nil, pow_zero, mul_one, decimalValue, List.reverse_nil, List.map_nil,
      Nat.ofDigits_nil, add_zero]
    exact eq_comm
  | cons d cs ih =>
    by_cases hd : d.isDigit
    · have hshift : (a * 10 + (d.toNat - 48)) * 10 ^ cs.length + decimalValue cs =
          a * 10 ^ (cs.length + 1) + decimalValue (d :: cs) := by
        rw [decimalValue_cons]; ring
      simp only [List.foldl_cons, Option.bind_some, hd, if_true, ih, List.mem_cons,
        forall_eq_or_imp, true_and, List.length_cons, hshift]
    · simp [hd, foldl_digits_none]

theorem digitsValue_eq_some_iff (cs : List Char) (v : Nat) :
    digitsValue cs = some v ↔ cs ≠ [] ∧ (∀ d ∈ cs, d.isDigit) ∧ v = decimalValue cs := by
  cases cs with
  | nil => simp [digitsValue]
  | cons c cs =>
    by_cases hc : c.isDigit
    · simp only [digitsValue, hc, if_true, foldl_digits_some, decimalValue_cons, ne_eq,
        reduceCtorEq, not_false_eq_true, List.mem_cons, forall_eq_or_imp, true_and]
    · simp [digitsValue, hc, foldl_digits_none]

/-- Where the digits of a text start: after a leading plus sign, or at its first character. -/
def Unsigned (s : String) (cs : List Char) : Prop :=
  s.toList = '+' :: cs ∨ (s.toList = cs ∧ cs.head? ≠ some '+')

theorem unsigned_exists (s : String) : ∃ cs, Unsigned s cs := by
  cases h : s.toList with
  | nil => exact ⟨[], .inr ⟨h, by simp⟩⟩
  | cons c rest =>
    by_cases hc : c = '+'
    · exact ⟨rest, .inl (by rw [h, hc])⟩
    · exact ⟨c :: rest, .inr ⟨h, by simpa using hc⟩⟩

theorem readWord_of_unsigned {s : String} {cs : List Char} (h : Unsigned s cs) :
    readWord s = (digitsValue cs).bind fun v => if v < wordLimit then some v else none := by
  rcases h with h | ⟨h, hh⟩
  · simp only [readWord, h]
    cases digitsValue cs <;> rfl
  · cases cs with
    | nil => simp only [readWord, h]; rfl
    | cons c rest =>
      have hc : c ≠ '+' := by simpa using hh
      -- the reader strips a plus sign only
      unfold readWord
      rw [h]
      split
      · rename_i heq
        exact absurd (List.cons.inj heq).1 hc
      · dsimp only
        cases digitsValue (c :: rest) <;> rfl

theorem isWord_of_unsigned {s : String} {cs : List Char} {n : Nat} (h : Unsigned s cs) :
    IsWord s n ↔ cs ≠ [] ∧ (∀ d ∈ cs, d.isDigit) ∧ n = decimalValue cs ∧ n < wordLimit := by
  have plus : ¬ ('+' : Char).isDigit := by decide
  constructor
  · rintro ⟨ds, hds, hne, hdig, hn, hlt⟩
    -- the text's own digits are `ds`: a plus sign is no digit
    have hds' : ds = cs := by
      rcases h with h | ⟨h, hh⟩ <;> rcases hds with hds | hds
      · exact absurd (hdig '+' (by simp [← hds, h])) plus
      · exact List.cons.inj (hds.symm.trans h) |>.2
      · exact hds.symm.trans h
      · rw [← h, hds] at hh
        exact absurd rfl hh
    subst hds'
    exact ⟨hne, hdig, hn, hlt⟩
  · rintro ⟨hne, hdig, hn, hlt⟩
    exact ⟨cs, h.elim .inr fun h => .inl h.1, hne, hdig, hn, hlt⟩

/-- The words are exactly the texts the reader reads. -/
theorem readWord_eq_some_iff {s : String} {n : Nat} : readWord s = some n ↔ IsWord s n := by
  obtain ⟨cs, h⟩ := unsigned_exists s
  rw [readWord_of_unsigned h, isWord_of_unsigned h, Option.bind_eq_some_iff]
  constructor
  · rintro ⟨v, hv, hlt⟩
    obtain ⟨hne, hdig, rfl⟩ := (digitsValue_eq_some_iff cs v).1 hv
    split at hlt
    · cases hlt
      exact ⟨hne, hdig, rfl, ‹_›⟩
    · cases hlt
  · rintro ⟨hne, hdig, rfl, hlt⟩
    exact ⟨_, (digitsValue_eq_some_iff cs _).2 ⟨hne, hdig, rfl⟩, by simp [hlt]⟩

instance (s : String) (n : Nat) : Decidable (IsWord s n) :=
  decidable_of_iff (readWord s = some n) readWord_eq_some_iff

example : IsWord "+0042" 42 ∧ ¬ IsWord "18446744073709551616" 18446744073709551616 := by decide

/-- A text is blank exactly when every character of it is white space. -/
theorem isBlankText_iff (s : String) : IsBlankText s ↔ ∀ c ∈ s.toList, isBlank c := by
  unfold IsBlankText trimChars
  rw [← List.rdropWhile, List.rdropWhile_eq_nil_iff]
  constructor
  · intro h
    -- the first character that is not blank would survive the first pass
    by_contra hall
    have hne : s.toList.dropWhile isBlank ≠ [] := mt List.dropWhile_eq_nil_iff.1 hall
    exact absurd (h _ (List.head_mem hne)) (by simpa using List.head_dropWhile_not isBlank hne)
  · intro h x hx
    exact h x ((List.dropWhile_sublist isBlank).subset hx)

theorem trim_eq_empty_iff (s : String) : trim s = "" ↔ IsBlankText s := by
  simp [trim, IsBlankText, String.ofList_eq_empty_iff]

end Text

namespace WorkerConfig

variable {lookup : String → Option String}

/-- A variable holding a count reads as `o`: absent, and `o` is nothing; or present, and its
    trimmed text is the word `o`. -/
def CountRead (v : Option String) (o : Option Nat) : Prop :=
  (v = none ∧ o = none) ∨ ∃ t n, v = some t ∧ o = some n ∧ Text.IsWord (Text.trim t) n

/-- The default settings, with the counts read and the thread name given put in. -/
def withRead (workers stackSize : Option Nat) (threadName : Option String) : WorkerConfig :=
  { workers := workers.getD ({} : WorkerConfig).workers,
    threadName := threadName.getD ({} : WorkerConfig).threadName,
    stackSize := stackSize.or ({} : WorkerConfig).stackSize }

/-- Every variable holding a count reads as one, or holds a text that is no word. -/
theorem countRead_or_fails (v : Option String) :
    (∃ o, CountRead v o) ∨ ∃ t, v = some t ∧ ∀ n, ¬ Text.IsWord (Text.trim t) n := by
  cases v with
  | none => exact .inl ⟨none, .inl ⟨rfl, rfl⟩⟩
  | some t =>
    by_cases h : ∃ n, Text.IsWord (Text.trim t) n
    · obtain ⟨n, hn⟩ := h
      exact .inl ⟨some n, .inr ⟨t, n, rfl, rfl, hn⟩⟩
    · exact .inr ⟨t, rfl, fun n hn => h ⟨n, hn⟩⟩

theorem readNumber_eq_ok_iff (key value : String) (n : Nat) :
    readNumber key value = .ok n ↔ Text.IsWord (Text.trim value) n := by
  rw [← Text.readWord_eq_some_iff]
  unfold readNumber
  split <;> simp_all

theorem readNumber_eq_error_iff (key value : String) (e : Error) :
    readNumber key value = .error e ↔ (∀ n, ¬ Text.IsWord (Text.trim value) n) ∧
      e = .config (key ++ " must be a non-negative integer, got " ++ Text.quote value) := by
  unfold readNumber
  cases h : Text.readWord (Text.trim value) with
  | none =>
    have hbad : ∀ n, ¬ Text.IsWord (Text.trim value) n := fun n hn => by
      rw [← Text.readWord_eq_some_iff, h] at hn
      cases hn
    simp [hbad, eq_comm]
  | some m =>
    simp only [reduceCtorEq, false_iff, not_and]
    exact fun hbad => absurd (Text.readWord_eq_some_iff.1 h) (hbad m)

/-- Validation refuses a blank thread name, then a stack below the minimum. -/
theorem validate_eq_error_iff (c : WorkerConfig) (e : Error) :
    c.validate = .error e ↔
      (Text.IsBlankText c.threadName ∧ e = .config "thread_name must not be empty") ∨
      (¬ Text.IsBlankText c.threadName ∧ ∃ n, c.stackSize = some n ∧ n < minStackSize ∧
        e = .config ("stack_size " ++ toString n ++ " is below the minimum of " ++ toString minStackSize ++
          " bytes")) := by
  unfold validate
  by_cases hb : Text.IsBlankText c.threadName
  · simp [(Text.trim_eq_empty_iff _).2 hb, hb, eq_comm]
  · have ht : Text.trim c.threadName ≠ "" := mt (Text.trim_eq_empty_iff _).1 hb
    cases hs : c.stackSize with
    | none => simp [ht, hb]
    | some n => by_cases hn : n < minStackSize <;> simp [ht, hb, hn, eq_comm]

theorem validate_eq_ok_iff (c : WorkerConfig) :
    c.validate = .ok () ↔ ¬ Text.IsBlankText c.threadName ∧ ∀ n, c.stackSize = some n → minStackSize ≤ n := by
  unfold validate
  by_cases hb : Text.IsBlankText c.threadName
  · simp [(Text.trim_eq_empty_iff _).2 hb, hb]
  · have ht : Text.trim c.threadName ≠ "" := mt (Text.trim_eq_empty_iff _).1 hb
    cases hs : c.stackSize with
    | none => simp [ht, hb]
    | some n =>
      by_cases hn : n < minStackSize
      · simp [ht, hb, hn]
      · simpa [ht, hb, hn] using Nat.le_of_not_lt hn

/-- A worker count that is no word stops the reading with its error. -/
theorem ofLookup_of_workers_fails {t : String} (h : lookup workersKey = some t)
    (hbad : ∀ n, ¬ Text.IsWord (Text.trim t) n) :
    ofLookup lookup = .error (.config (workersKey ++ " must be a non-negative integer, got " ++ Text.quote t)) := by
  have hr := (readNumber_eq_error_iff workersKey t _).2 ⟨hbad, rfl⟩
  unfold ofLookup
  rw [h]
  simp only [hr]
  rfl

/-- Once the worker count reads, a stack size that is no word stops the reading with its error. -/
theorem ofLookup_of_stack_fails {ow : Option Nat} {t : String} (hw : CountRead (lookup workersKey) ow)
    (h : lookup stackSizeKey = some t) (hbad : ∀ n, ¬ Text.IsWord (Text.trim t) n) :
    ofLookup lookup = .error (.config (stackSizeKey ++ " must be a non-negative integer, got " ++ Text.quote t)) := by
  have hr := (readNumber_eq_error_iff stackSizeKey t _).2 ⟨hbad, rfl⟩
  unfold ofLookup
  rcases hw with ⟨hw, -⟩ | ⟨tw, n, hw, -, hn⟩
  · rw [hw, h]
    simp only [hr]
    rfl
  · rw [hw, h]
    simp only [(readNumber_eq_ok_iff workersKey tw n).2 hn, hr]
    rfl

theorem readNumber_eq_pure {key value : String} {n : Nat} (h : Text.IsWord (Text.trim value) n) :
    readNumber key value = pure n :=
  (readNumber_eq_ok_iff key value n).2 h

/-- Once both counts read, the settings read are validated, and returned when valid. -/
theorem ofLookup_of_read {ow os : Option Nat} (hw : CountRead (lookup workersKey) ow)
    (hs : CountRead (lookup stackSizeKey) os) :
    ofLookup lookup = (withRead ow os (lookup threadNameKey)).validate >>=
      fun _ => .ok (withRead ow os (lookup threadNameKey)) := by
  unfold ofLookup
  -- once the lookups are read, only the validation of the settings is left
  rcases hw with ⟨hw, rfl⟩ | ⟨tw, n, hw, rfl, hn⟩ <;> rcases hs with ⟨hs, rfl⟩ | ⟨ts, m, hs, rfl, hm⟩
  · simp only [hw, hs, pure_bind]
    rfl
  · simp only [hw, hs, readNumber_eq_pure hm, map_pure, pure_bind]
    rfl
  · simp only [hw, hs, readNumber_eq_pure hn, pure_bind]
    rfl
  · simp only [hw, hs, readNumber_eq_pure hn, readNumber_eq_pure hm, map_pure, pure_bind]
    rfl

/-- Validating settings and then giving them back gives them exactly when they are valid. -/
theorem validate_then_ok (c c' : WorkerConfig) :
    (c.validate >>= fun _ => Except.ok c) = .ok c' ↔ c' = c ∧ c.validate = .ok () := by
  cases c.validate with
  | error e => simp [bind, Except.bind]
  | ok u => simp [bind, Except.bind, eq_comm]

/-- Validating settings and then giving them back fails with the validation's error. -/
theorem validate_then_error (c : WorkerConfig) (e : Error) :
    (c.validate >>= fun _ => Except.ok c) = .error e ↔ c.validate = .error e := by
  cases c.validate <;> simp [bind, Except.bind]

theorem ofLookup_eq_ok_iff (c : WorkerConfig) :
    ofLookup lookup = .ok c ↔ ∃ ow os, CountRead (lookup workersKey) ow ∧
      CountRead (lookup stackSizeKey) os ∧ c = withRead ow os (lookup threadNameKey) ∧
      c.validate = .ok () := by
  constructor
  · intro h
    -- a count that is no word would have stopped the reading with an error
    rcases countRead_or_fails (lookup workersKey) with ⟨ow, hw⟩ | ⟨t, ht, hbad⟩
    · rcases countRead_or_fails (lookup stackSizeKey) with ⟨os, hs⟩ | ⟨t, ht, hbad⟩
      · rw [ofLookup_of_read hw hs, validate_then_ok] at h
        obtain ⟨rfl, hv⟩ := h
        exact ⟨ow, os, hw, hs, rfl, hv⟩
      · rw [ofLookup_of_stack_fails hw ht hbad] at h
        cases h
    · rw [ofLookup_of_workers_fails ht hbad] at h
      cases h
  · rintro ⟨ow, os, hw, hs, rfl, hv⟩
    rw [ofLookup_of_read hw hs]
    exact (validate_then_ok _ _).2 ⟨rfl, hv⟩

theorem ofLookup_eq_error_iff (e : Error) :
    ofLookup lookup = .error e ↔
      (∃ t, lookup workersKey = some t ∧ (∀ n, ¬ Text.IsWord (Text.trim t) n) ∧
          e = .config (workersKey ++ " must be a non-negative integer, got " ++ Text.quote t)) ∨
      (∃ ow t, CountRead (lookup workersKey) ow ∧ lookup stackSizeKey = some t ∧
          (∀ n, ¬ Text.IsWord (Text.trim t) n) ∧
          e = .config (stackSizeKey ++ " must be a non-negative integer, got " ++ Text.quote t)) ∨
      (∃ ow os, CountRead (lookup workersKey) ow ∧ CountRead (lookup stackSizeKey) os ∧
          Text.IsBlankText ((lookup threadNameKey).getD ({} : WorkerConfig).threadName) ∧
          e = .config "thread_name must not be empty") ∨
      (∃ ow n, CountRead (lookup workersKey) ow ∧ CountRead (lookup stackSizeKey) (some n) ∧
          ¬ Text.IsBlankText ((lookup threadNameKey).getD ({} : WorkerConfig).threadName) ∧
          n < minStackSize ∧
          e = .config ("stack_size " ++ toString n ++ " is below the minimum of " ++ toString minStackSize ++
            " bytes")) := by
  constructor
  · intro h
    rcases countRead_or_fails (lookup workersKey) with ⟨ow, hw⟩ | ⟨t, ht, hbad⟩
    · rcases countRead_or_fails (lookup stackSizeKey) with ⟨os, hs⟩ | ⟨t, ht, hbad⟩
      · -- both counts read: the error is validation's
        rw [ofLookup_of_read hw hs, validate_then_error] at h
        rcases (validate_eq_error_iff _ e).1 h with ⟨hb, rfl⟩ | ⟨hb, n, hn, hlt, rfl⟩
        · exact .inr (.inr (.inl ⟨ow, os, hw, hs, hb, rfl⟩))
        · have hos : os = some n := by simpa [withRead] using hn
          subst hos
          exact .inr (.inr (.inr ⟨ow, n, hw, hs, hb, hlt, rfl⟩))
      · rw [ofLookup_of_stack_fails hw ht hbad] at h
        cases h
        exact .inr (.inl ⟨ow, t, hw, ht, hbad, rfl⟩)
    · rw [ofLookup_of_workers_fails ht hbad] at h
      cases h
      exact .inl ⟨t, ht, hbad, rfl⟩
  · rintro (⟨t, ht, hbad, rfl⟩ | ⟨ow, t, hw, ht, hbad, rfl⟩ | ⟨ow, os, hw, hs, hb, rfl⟩ |
      ⟨ow, n, hw, hs, hb, hlt, rfl⟩)
    · exact ofLookup_of_workers_fails ht hbad
    · exact ofLookup_of_stack_fails hw ht hbad
    · rw [ofLookup_of_read hw hs, validate_then_error]
      exact (validate_eq_error_iff _ _).2 (.inl ⟨hb, rfl⟩)
    · rw [ofLookup_of_read hw hs, validate_then_error]
      exact (validate_eq_error_iff _ _).2 (.inr ⟨hb, n, rfl, hlt, rfl⟩)

/-- Settings read from TOML text are valid. -/
theorem validate_of_ofToml {text : String} {c : WorkerConfig} (h : ofToml text = .ok c) :
    c.validate = .ok () := by
  unfold ofToml at h
  revert h
  cases Toml.readFlat text with
  | none => intro h; cases h
  | some ps =>
    simp only [bind, Except.bind, pure, Except.pure]
    cases applyPairs ps [] {} with
    | error e => intro h; cases h
    | ok c' =>
      intro h
      obtain ⟨rfl, hv⟩ := (validate_then_ok c' c).1 h
      exact hv

/-- Reading settings through a lookup accepts exactly the grammar of its variables: it succeeds
    when each count present reads as a word once trimmed and the settings read are valid, and
    gives the defaults with the counts and the untrimmed thread name put in; otherwise it fails
    with the error of the first check to fail, worker count, stack size, blank thread name,
    stack below the minimum, a count's error naming its variable and quoting its value as given.
    Settings read from TOML are valid too. -/
theorem lookup_settings_exact (lookup : String → Option String) :
    (∀ c, ofLookup lookup = .ok c ↔ ∃ ow os, CountRead (lookup workersKey) ow ∧
        CountRead (lookup stackSizeKey) os ∧ c = withRead ow os (lookup threadNameKey) ∧
        c.validate = .ok ()) ∧
    (∀ e, ofLookup lookup = .error e ↔
      (∃ t, lookup workersKey = some t ∧ (∀ n, ¬ Text.IsWord (Text.trim t) n) ∧
          e = .config (workersKey ++ " must be a non-negative integer, got " ++ Text.quote t)) ∨
      (∃ ow t, CountRead (lookup workersKey) ow ∧ lookup stackSizeKey = some t ∧
          (∀ n, ¬ Text.IsWord (Text.trim t) n) ∧
          e = .config (stackSizeKey ++ " must be a non-negative integer, got " ++ Text.quote t)) ∨
      (∃ ow os, CountRead (lookup workersKey) ow ∧ CountRead (lookup stackSizeKey) os ∧
          Text.IsBlankText ((lookup threadNameKey).getD ({} : WorkerConfig).threadName) ∧
          e = .config "thread_name must not be empty") ∨
      (∃ ow n, CountRead (lookup workersKey) ow ∧ CountRead (lookup stackSizeKey) (some n) ∧
          ¬ Text.IsBlankText ((lookup threadNameKey).getD ({} : WorkerConfig).threadName) ∧
          n < minStackSize ∧
          e = .config ("stack_size " ++ toString n ++ " is below the minimum of " ++ toString minStackSize ++
            " bytes"))) ∧
    ∀ text c, ofToml text = .ok c → c.validate = .ok () :=
  ⟨ofLookup_eq_ok_iff, ofLookup_eq_error_iff, fun _ _ => validate_of_ofToml⟩

example : ofLookup (fun k => if k = workersKey then some " +06\u3000" else none) =
    .ok { workers := 6 } := by decide

end WorkerConfig

end Affinity
