import Mathlib.Data.List.DropRight
import Affinity.Config.Log
/-!
Level and format words of the logging settings.

A word is read from a text by trimming white space (`Text.isBlank`) at both ends and lowercasing
ASCII letters (`logWord`). `LogLevel.Names` and `LogFormat.Names` say which words name which
setting: the setting's own word, `warning` for `warn`, and `plain` or `text` for `compact`.

Reading a level or a format accepts exactly the texts whose word names one, and otherwise fails
with the one error that quotes the word. So blank characters around a text and the case of its
ASCII letters never change the outcome, while a text that keeps a character beyond ASCII after
trimming never names anything: `Char.toLower` leaves such characters as they are, and every word
of a setting is ASCII.

Main statement: `log_keywords_exact`, which adds that reading settings through a lookup gives the
defaults with the level and format read put in, and fails on a bad level before it looks at the
format.
-/

namespace Affinity

namespace Text

/-- ASCII lowercasing moves the capitals `A` to `Z` up by 32 and leaves every other character. -/
theorem toLower_cases (c : Char) :
    c.toLower = c ∨ (65 ≤ c.toNat ∧ c.toNat ≤ 90 ∧ c.toLower.toNat = c.toNat + 32) := by
  unfold Char.toLower
  split
  · rename_i h
    right
    have h65 : 'A'.val.toNat = 65 := rfl
    have h90 : 'Z'.val.toNat = 90 := rfl
    have h32 : ('a'.val - 'A'.val).toNat = 32 := rfl
    simp only [ge_iff_le, UInt32.le_iff_toNat_le, h65, h90] at h
    simp only [Char.toNat, UInt32.toNat_add, h32]
    omega
  · exact .inl rfl

theorem toLower_of_le {c : Char} (h : 128 ≤ c.toNat) : c.toLower = c :=
  (toLower_cases c).resolve_right fun h' => by omega

theorem isBlank_of_letter {c : Char} (h₁ : 65 ≤ c.toNat) (h₂ : c.toNat ≤ 122) : isBlank c = false := by
  simp only [isBlank, Bool.or_eq_false_iff, Bool.and_eq_false_iff, decide_eq_false_iff_not,
    beq_eq_false_iff_ne]
  omega

@[simp] theorem isBlank_toLower (c : Char) : isBlank c.toLower = isBlank c := by
  rcases toLower_cases c with h | ⟨h₁, h₂, h₃⟩
  · rw [h]
  · rw [isBlank_of_letter (by omega) (by omega), isBlank_of_letter h₁ (by omega)]

/-- Trimming and lowercasing commute, as lowercasing keeps blank characters blank. -/
theorem trimChars_map_toLower (cs : List Char) :
    trimChars (cs.map Char.toLower) = (trimChars cs).map Char.toLower := by
  have hb : (isBlank ∘ Char.toLower) = isBlank := funext isBlank_toLower
  simp only [trimChars, List.dropWhile_map, hb, ← List.map_reverse]

theorem dropWhile_blank_append {p cs : List Char} (hp : ∀ c ∈ p, isBlank c) :
    (p ++ cs).dropWhile isBlank = cs.dropWhile isBlank := by
  induction p with
  | nil => rfl
  | cons c p ih =>
    rw [List.cons_append, List.dropWhile_cons_of_pos (hp c (by simp))]
    exact ih fun d hd => hp d (by simp [hd])

theorem trimChars_blank_ends {p cs q : List Char} (hp : ∀ c ∈ p, isBlank c) (hq : ∀ c ∈ q, isBlank c) :
    trimChars (p ++ cs ++ q) = trimChars cs := by
  have hq' : ∀ c ∈ q.reverse, isBlank c := fun c hc => hq c (List.mem_reverse.1 hc)
  unfold trimChars
  rw [List.append_assoc, dropWhile_blank_append hp, List.dropWhile_append]
  split
  · -- `cs` is blank throughout, and so is what follows it
    rename_i h
    rw [List.isEmpty_iff.1 h, List.dropWhile_eq_nil_iff.2 hq]
  · rw [List.reverse_append, dropWhile_blank_append hq']

end Text

theorem toList_logWord (s : String) : (logWord s).toList = (Text.trimChars s.toList).map Char.toLower := by
  simp [logWord, Text.trim]

theorem logWord_blank_ends {p s q : String} (hp : ∀ c ∈ p.toList, Text.isBlank c)
    (hq : ∀ c ∈ q.toList, Text.isBlank c) : logWord (p ++ s ++ q) = logWord s := by
  simp only [logWord, Text.trim, String.toList_append, Text.trimChars_blank_ends hp hq]

theorem logWord_eq_of_toLower {s s' : String} (h : s.toList.map Char.toLower = s'.toList.map Char.toLower) :
    logWord s = logWord s' := by
  simp only [logWord, Text.trim, String.toList_ofList, ← Text.trimChars_map_toLower, h]

/-- A character beyond ASCII that survives trimming stands in the word as it is. -/
theorem mem_logWord {s : String} {c : Char} (hc : c ∈ (Text.trim s).toList) (h : 128 ≤ c.toNat) :
    c ∈ (logWord s).toList := by
  rw [toList_logWord, ← Text.toLower_of_le h]
  exact List.mem_map_of_mem (by simpa [Text.trim] using hc)

/-- A reader that gives `a` exactly for what names `a` fails exactly otherwise, when it has one
    error only. -/
theorem Except.error_iff_of_ok_iff {α : Type} {r : Except Error α} {Named : α → Prop} {msg : Error}
    (hok : ∀ a, r = .ok a ↔ Named a) (herr : ∀ e, r = .error e → e = msg) (e : Error) :
    r = .error e ↔ (∀ a, ¬ Named a) ∧ e = msg := by
  constructor
  · intro h
    refine ⟨fun a ha => ?_, herr e h⟩
    rw [(hok a).2 ha] at h
    cases h
  · rintro ⟨hn, rfl⟩
    cases hr : r with
    | ok a => exact absurd ((hok a).1 hr) (hn a)
    | error e' => rw [herr e' hr]

/-- A reader whose results are named by ASCII words only fails on a text whose trimmed form has
    a character beyond ASCII. -/
theorem Except.error_of_not_ascii {α : Type} {r : Except Error α} {s : String} {Named : α → String → Prop}
    (hok : ∀ a, r = .ok a → Named a (logWord s)) (hascii : ∀ a w, Named a w → ∀ c ∈ w.toList, c.toNat < 128)
    (hs : ∃ c ∈ (Text.trim s).toList, 128 ≤ c.toNat) : ∃ e, r = .error e := by
  obtain ⟨c, hc, h⟩ := hs
  cases hr : r with
  | ok a => exact absurd (hascii a _ (hok a hr) c (mem_logWord hc h)) (by omega)
  | error e => exact ⟨e, rfl⟩

/-- `w` names level `l`: the level's word, or `warning` for `warn`. -/
def LogLevel.Names (l : LogLevel) (w : String) : Prop := w = l.word ∨ (l = .warn ∧ w = "warning")

/-- `w` names format `f`: the format's word, or `plain` or `text` for `compact`. -/
def LogFormat.Names (f : LogFormat) (w : String) : Prop :=
  w = f.word ∨ (f = .compact ∧ (w = "plain" ∨ w = "text"))

namespace LogLevel

theorem parse_eq_ok_iff (s : String) (l : LogLevel) : parse s = .ok l ↔ l.Names (logWord s) := by
  unfold parse Names
  generalize logWord s = w
  split <;> cases l <;> simp_all [word]

theorem parse_error {s : String} {e : Error} (h : parse s = .error e) :
    e = .config ("unknown log level " ++ Text.quote (logWord s)) := by
  unfold parse at h
  split at h <;> cases h
  rfl

theorem parse_eq_error_iff (s : String) (e : Error) :
    parse s = .error e ↔ (∀ l : LogLevel, ¬ l.Names (logWord s)) ∧
      e = .config ("unknown log level " ++ Text.quote (logWord s)) :=
  Except.error_iff_of_ok_iff (parse_eq_ok_iff s) (fun _ => parse_error) e

theorem ascii_of_names {l : LogLevel} {w : String} (h : l.Names w) : ∀ c ∈ w.toList, c.toNat < 128 := by
  suffices w.toList.all (·.toNat < 128) by simpa using this
  rcases h with rfl | ⟨rfl, rfl⟩
  · cases l <;> decide
  · decide

theorem parse_eq_of_logWord {s s' : String} (h : logWord s = logWord s') : parse s = parse s' := by
  simp only [parse, h]

end LogLevel

namespace LogFormat

theorem parse_eq_ok_iff (s : String) (f : LogFormat) : parse s = .ok f ↔ f.Names (logWord s) := by
  unfold parse Names
  generalize logWord s = w
  split <;> cases f <;> simp_all [word]

theorem parse_error {s : String} {e : Error} (h : parse s = .error e) :
    e = .config ("unknown log format " ++ Text.quote (logWord s)) := by
  unfold parse at h
  split at h <;> cases h
  rfl

theorem parse_eq_error_iff (s : String) (e : Error) :
    parse s = .error e ↔ (∀ f : LogFormat, ¬ f.Names (logWord s)) ∧
      e = .config ("unknown log format " ++ Text.quote (logWord s)) :=
  Except.error_iff_of_ok_iff (parse_eq_ok_iff s) (fun _ => parse_error) e

theorem ascii_of_names {f : LogFormat} {w : String} (h : f.Names w) : ∀ c ∈ w.toList, c.toNat < 128 := by
  suffices w.toList.all (·.toNat < 128) by simpa using this
  rcases h with rfl | ⟨rfl, rfl | rfl⟩
  · cases f <;> decide
  · decide
  · decide

theorem parse_eq_of_logWord {s s' : String} (h : logWord s = logWord s') : parse s = parse s' := by
  simp only [parse, h]

end LogFormat

/-- A setting read from a variable that may be absent: absent, and the setting is the default;
    or present, and its text reads as the setting. -/
def Overrides {α : Type} (read : String → Except Error α) (default : α) (v : Option String) (a : α) :
    Prop :=
  (v = none ∧ a = default) ∨ ∃ t, v = some t ∧ read t = .ok a

/-- Every variable reads as a setting, or holds a text that fails to read. -/
theorem overrides_or_fails {α : Type} (read : String → Except Error α) (default : α) (v : Option String) :
    (∃ a, Overrides read default v a) ∨ ∃ t e, v = some t ∧ read t = .error e := by
  cases v with
  | none => exact .inl ⟨default, .inl ⟨rfl, rfl⟩⟩
  | some t =>
    cases h : read t with
    | ok a => exact .inl ⟨a, .inr ⟨t, rfl, h⟩⟩
    | error e => exact .inr ⟨t, e, rfl, h⟩

namespace LogConfig

variable {lookup : String → Option String}

theorem ofLookup_of_overrides {l : LogLevel} {f : LogFormat}
    (hl : Overrides LogLevel.parse .info (lookup "STRAND_LOG_LEVEL") l)
    (hf : Overrides LogFormat.parse .compact (lookup "STRAND_LOG_FORMAT") f) :
    ofLookup lookup = .ok { level := l, format := f } := by
  unfold ofLookup
  rcases hl with ⟨hl, rfl⟩ | ⟨t, hl, hp⟩ <;> rcases hf with ⟨hf, rfl⟩ | ⟨u, hf, hq⟩
  · simp only [hl, hf]; rfl
  · simp only [hl, hf, hq]; rfl
  · simp only [hl, hp, hf]; rfl
  · simp only [hl, hp, hf, hq]; rfl

/-- A level that fails to read stops the reading before the format is looked at. -/
theorem ofLookup_of_level_fails {t : String} {e : Error} (h : lookup "STRAND_LOG_LEVEL" = some t)
    (he : LogLevel.parse t = .error e) : ofLookup lookup = .error e := by
  unfold ofLookup
  simp only [h, he]
  rfl

theorem ofLookup_of_format_fails {l : LogLevel} {t : String} {e : Error}
    (hl : Overrides LogLevel.parse .info (lookup "STRAND_LOG_LEVEL") l)
    (h : lookup "STRAND_LOG_FORMAT" = some t) (he : LogFormat.parse t = .error e) :
    ofLookup lookup = .error e := by
  unfold ofLookup
  rcases hl with ⟨hl, rfl⟩ | ⟨u, hl, hp⟩
  · simp only [hl, h, he]; rfl
  · simp only [hl, hp, h, he]; rfl

theorem ofLookup_eq_ok_iff (c : LogConfig) :
    ofLookup lookup = .ok c ↔ ∃ l f, Overrides LogLevel.parse .info (lookup "STRAND_LOG_LEVEL") l ∧
      Overrides LogFormat.parse .compact (lookup "STRAND_LOG_FORMAT") f ∧ c = { level := l, format := f } := by
  constructor
  · intro h
    rcases overrides_or_fails LogLevel.parse .info (lookup "STRAND_LOG_LEVEL") with ⟨l, hl⟩ | ⟨t, e, ht, he⟩
    · rcases overrides_or_fails LogFormat.parse .compact (lookup "STRAND_LOG_FORMAT") with
        ⟨f, hf⟩ | ⟨t, e, ht, he⟩
      · rw [ofLookup_of_overrides hl hf] at h
        cases h
        exact ⟨l, f, hl, hf, rfl⟩
      · rw [ofLookup_of_format_fails hl ht he] at h
        cases h
    · rw [ofLookup_of_level_fails ht he] at h
      cases h
  · rintro ⟨l, f, hl, hf, rfl⟩
    exact ofLookup_of_overrides hl hf

theorem ofLookup_eq_error_iff (e : Error) :
    ofLookup lookup = .error e ↔
      (∃ t, lookup "STRAND_LOG_LEVEL" = some t ∧ LogLevel.parse t = .error e) ∨
      (∃ l t, Overrides LogLevel.parse .info (lookup "STRAND_LOG_LEVEL") l ∧
        lookup "STRAND_LOG_FORMAT" = some t ∧ LogFormat.parse t = .error e) := by
  constructor
  · intro h
    rcases overrides_or_fails LogLevel.parse .info (lookup "STRAND_LOG_LEVEL") with ⟨l, hl⟩ | ⟨t, e', ht, he⟩
    · rcases overrides_or_fails LogFormat.parse .compact (lookup "STRAND_LOG_FORMAT") with
        ⟨f, hf⟩ | ⟨t, e', ht, he⟩
      · rw [ofLookup_of_overrides hl hf] at h
        cases h
      · rw [ofLookup_of_format_fails hl ht he] at h
        cases h
        exact .inr ⟨l, t, hl, ht, he⟩
    · rw [ofLookup_of_level_fails ht he] at h
      cases h
      exact .inl ⟨t, ht, he⟩
  · rintro (⟨t, ht, he⟩ | ⟨l, t, hl, ht, he⟩)
    · exact ofLookup_of_level_fails ht he
    · exact ofLookup_of_format_fails hl ht he

end LogConfig

/-- Level and format words are read exactly: a level reads as `l` when the text, trimmed and with
    its ASCII letters lowercased, names `l`, and otherwise fails with the one error quoting that
    word; the same for formats. Blank characters at either end and the case of ASCII letters
    change nothing, and a character beyond ASCII left after trimming makes both fail. Reading
    settings through a lookup gives the defaults with the level and format read put in, and a
    level that fails to read is reported whatever the format. -/
theorem log_keywords_exact :
    (∀ s l, LogLevel.parse s = .ok l ↔ l.Names (logWord s)) ∧
    (∀ s e, LogLevel.parse s = .error e ↔ (∀ l : LogLevel, ¬ l.Names (logWord s)) ∧
      e = .config ("unknown log level " ++ Text.quote (logWord s))) ∧
    (∀ s f, LogFormat.parse s = .ok f ↔ f.Names (logWord s)) ∧
    (∀ s e, LogFormat.parse s = .error e ↔ (∀ f : LogFormat, ¬ f.Names (logWord s)) ∧
      e = .config ("unknown log format " ++ Text.quote (logWord s))) ∧
    (∀ p s q : String, (∀ c ∈ p.toList, Text.isBlank c) → (∀ c ∈ q.toList, Text.isBlank c) →
      LogLevel.parse (p ++ s ++ q) = LogLevel.parse s ∧ LogFormat.parse (p ++ s ++ q) = LogFormat.parse s) ∧
    (∀ s s' : String, s.toList.map Char.toLower = s'.toList.map Char.toLower →
      LogLevel.parse s = LogLevel.parse s' ∧ LogFormat.parse s = LogFormat.parse s') ∧
    (∀ s : String, (∃ c ∈ (Text.trim s).toList, 128 ≤ c.toNat) →
      (∃ e, LogLevel.parse s = .error e) ∧ ∃ e, LogFormat.parse s = .error e) ∧
    (∀ lookup c, LogConfig.ofLookup lookup = .ok c ↔ ∃ l f,
      Overrides LogLevel.parse .info (lookup "STRAND_LOG_LEVEL") l ∧
      Overrides LogFormat.parse .compact (lookup "STRAND_LOG_FORMAT") f ∧ c = { level := l, format := f }) ∧
    (∀ lookup e, LogConfig.ofLookup lookup = .error e ↔
      (∃ t, lookup "STRAND_LOG_LEVEL" = some t ∧ LogLevel.parse t = .error e) ∨
      (∃ l t, Overrides LogLevel.parse .info (lookup "STRAND_LOG_LEVEL") l ∧
        lookup "STRAND_LOG_FORMAT" = some t ∧ LogFormat.parse t = .error e)) := by
  refine ⟨LogLevel.parse_eq_ok_iff, LogLevel.parse_eq_error_iff, LogFormat.parse_eq_ok_iff,
    LogFormat.parse_eq_error_iff, fun p s q hp hq => ?_, fun s s' h => ?_, fun s hs => ?_,
    fun _ => LogConfig.ofLookup_eq_ok_iff, fun _ => LogConfig.ofLookup_eq_error_iff⟩
  · have hw := logWord_blank_ends (s := s) hp hq
    exact ⟨LogLevel.parse_eq_of_logWord hw, LogFormat.parse_eq_of_logWord hw⟩
  · have hw := logWord_eq_of_toLower h
    exact ⟨LogLevel.parse_eq_of_logWord hw, LogFormat.parse_eq_of_logWord hw⟩
  · exact ⟨Except.error_of_not_ascii (fun l => (LogLevel.parse_eq_ok_iff s l).1)
        (fun _ _ => LogLevel.ascii_of_names) hs,
      Except.error_of_not_ascii (fun f => (LogFormat.parse_eq_ok_iff s f).1)
        (fun _ _ => LogFormat.ascii_of_names) hs⟩

example : (LogLevel.parse "\u3000WARNING\n").toOption = some .warn ∧
    (LogLevel.parse "ınfo").toOption = none := by decide

end Affinity
