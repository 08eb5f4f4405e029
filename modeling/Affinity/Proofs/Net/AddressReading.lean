import Mathlib.Tactic.IntervalCases
import Affinity.Net.Address
/-!
Reading back the written forms of addresses.

Every number the printers write, in decimal or in hexadecimal, is read back by `number` up to
the first character that is no digit. From this, `ipv4` reads back the dotted form of four
octets, and `ipv6` each of the three written forms of eight groups: in full, with the first
longest run of zero groups written `::`, and IPv4-mapped with its dotted tail. What follows an
address matters, since the readers are greedy: `Halts`, `GroupsEnd` and `EndsAddress` say which
texts may follow a number, a run of groups and a whole address without being read into them.
-/

namespace Affinity.Net

/-! ### Digits and numbers -/

theorem digit_digitChar {k : Nat} (hk : k < 16) (radix : Nat) :
    digit radix k.digitChar = if k < radix then some k else none := by
  interval_cases k <;> rfl

theorem digit_eq_none_of_le {r r' : Nat} {c : Char} (hr : r ≤ r') (h : digit r' c = none) :
    digit r c = none := by
  simp only [digit, Option.bind_eq_none_iff] at h ⊢
  intro d hd
  have hd' := h d hd
  simp only [ite_eq_right_iff, reduceCtorEq, imp_false, not_lt] at hd' ⊢
  omega

theorem digitRun_append {radix : Nat} {cs rest : List Char}
    (hcs : ∀ c ∈ cs, (digit radix c).isSome) (hrest : ∀ c ∈ rest.head?, digit radix c = none) :
    digitRun radix (cs ++ rest) = (cs.filterMap (digit radix), rest) := by
  induction cs with
  | nil =>
    cases rest with
    | nil => rfl
    | cons c r => simp [digitRun, hrest c rfl]
  | cons c cs ih =>
    obtain ⟨d, hd⟩ := Option.isSome_iff_exists.1 (hcs c (by simp))
    simp [digitRun, hd, ih fun c h => hcs c (by simp [h])]

section toDigits

variable {b : Nat} (hb : 1 < b)
include hb

theorem isSome_digit_of_mem_toDigits (hb16 : b ≤ 16) {n : Nat} {c : Char}
    (hc : c ∈ Nat.toDigits b n) : (digit b c).isSome := by
  induction n using Nat.strong_induction_on with
  | _ n ih =>
    rw [Nat.toDigits_eq_if hb] at hc
    split at hc
    · simp only [List.mem_singleton] at hc
      simp [hc, digit_digitChar (show n < 16 by omega), ‹n < b›]
    · simp only [List.mem_append, List.mem_singleton] at hc
      rcases hc with hc | rfl
      · exact ih (n / b) (Nat.div_lt_self (by omega) hb) hc
      · have := Nat.mod_lt n (show b > 0 by omega)
        simp [digit_digitChar (show n % b < 16 by omega), this]

theorem foldl_digits_toDigits (hb16 : b ≤ 16) (n : Nat) :
    ((Nat.toDigits b n).filterMap (digit b)).foldl (fun acc d => acc * b + d) 0 = n := by
  induction n using Nat.strong_induction_on with
  | _ n ih =>
    rw [Nat.toDigits_eq_if hb]
    split
    · simp [digit_digitChar (show n < 16 by omega), *]
    · have hmod := Nat.mod_lt n (show b > 0 by omega)
      rw [List.filterMap_append, List.foldl_append, ih (n / b) (Nat.div_lt_self (by omega) hb)]
      simp [digit_digitChar (show n % b < 16 by omega), hmod, Nat.div_add_mod']

theorem length_digits_toDigits (hb16 : b ≤ 16) (n : Nat) :
    ((Nat.toDigits b n).filterMap (digit b)).length = (Nat.toDigits b n).length := by
  rw [List.length_filterMap_eq_countP, List.countP_eq_length]
  exact fun _ hc => isSome_digit_of_mem_toDigits hb hb16 hc

theorem head_digits_toDigits (hb16 : b ≤ 16) {n : Nat} (hn : 0 < n) :
    ((Nat.toDigits b n).filterMap (digit b)).head? ≠ some 0 := by
  induction n using Nat.strong_induction_on with
  | _ n ih =>
    rw [Nat.toDigits_eq_if hb]
    split
    · simp [digit_digitChar (show n < 16 by omega), *]; omega
    · have hq : 0 < n / b := Nat.div_pos (by omega) (by omega)
      rw [List.filterMap_append, List.head?_append]
      have := ih (n / b) (Nat.div_lt_self (by omega) hb) hq
      cases h : ((Nat.toDigits b (n / b)).filterMap (digit b)).head? with
      | none =>
        -- the digits of `n / b` are not empty, so they give the head
        rw [List.head?_eq_none_iff] at h
        have hlen := length_digits_toDigits hb hb16 (n / b)
        rw [h, List.length_nil, eq_comm, List.length_eq_zero_iff] at hlen
        exact absurd hlen Nat.toDigits_ne_nil
      | some d => simp_all

/-- A number written in radix `b` is read back, whatever follows it that is no digit. -/
theorem number_toDigits (hb16 : b ≤ 16) {limit : Nat} {maxDigits : Option Nat}
    {zeroPrefix : Bool} {n : Nat} {rest : List Char} (hn : n < limit)
    (hlen : ∀ m ∈ maxDigits, (Nat.toDigits b n).length ≤ m)
    (hrest : ∀ c ∈ rest.head?, digit b c = none) :
    number b limit maxDigits zeroPrefix (Nat.toDigits b n ++ rest) = some (n, rest) := by
  unfold number
  rw [digitRun_append (fun c hc => isSome_digit_of_mem_toDigits hb hb16 hc) hrest]
  simp only [foldl_digits_toDigits hb hb16, length_digits_toDigits hb hb16]
  have hne : ((Nat.toDigits b n).filterMap (digit b)).isEmpty = false := by
    rw [List.isEmpty_eq_false_iff, ← List.length_pos_iff, length_digits_toDigits hb hb16]
    exact List.length_pos_iff.2 Nat.toDigits_ne_nil
  -- a leading zero only stands in the one-digit form of zero
  have hzero : ¬ ((Nat.toDigits b n).length > 1 ∧
      ((Nat.toDigits b n).filterMap (digit b)).head? = some 0) := by
    rintro ⟨hl, hh⟩
    rcases Nat.eq_zero_or_pos n with rfl | hpos
    · simp [Nat.toDigits_zero] at hl
    · exact head_digits_toDigits hb hb16 hpos hh
  cases maxDigits with
  | none => simp_all
  | some m =>
    have := hlen m rfl
    simp_all

/-- The same, for a reader of at most `k` digits, which has room for every number below `b ^ k`. -/
theorem number_toDigits_of_lt_pow (hb16 : b ≤ 16) {limit k n : Nat} {zeroPrefix : Bool}
    {rest : List Char} (hk : 0 < k) (hn : n < limit) (hnk : n < b ^ k)
    (hrest : ∀ c ∈ rest.head?, digit b c = none) :
    number b limit (some k) zeroPrefix (Nat.toDigits b n ++ rest) = some (n, rest) :=
  number_toDigits hb hb16 hn
    (fun m hm => by cases hm; exact (Nat.length_toDigits_le_iff hb hk).2 hnk) hrest

theorem not_mem_toDigits (hb16 : b ≤ 16) {n : Nat} {c : Char} (hc : digit b c = none) :
    c ∉ Nat.toDigits b n := fun h => by
  simpa [hc] using isSome_digit_of_mem_toDigits hb hb16 h

end toDigits

theorem number_eq_none {radix limit : Nat} {maxDigits : Option Nat} {zeroPrefix : Bool}
    {cs : List Char} (h : ∀ c ∈ cs.head?, digit radix c = none) :
    number radix limit maxDigits zeroPrefix cs = none := by
  cases cs with
  | nil => rfl
  | cons c cs => simp [number, digitRun, h c rfl]

theorem rest_of_number {radix limit : Nat} {maxDigits : Option Nat} {zeroPrefix : Bool}
    {cs rest : List Char} {v : Nat} (h : number radix limit maxDigits zeroPrefix cs = some (v, rest)) :
    rest = (digitRun radix cs).2 := by
  unfold number at h
  generalize digitRun radix cs = p at h ⊢
  obtain ⟨ds, r⟩ := p
  dsimp only at h
  split_ifs at h
  simp only [Option.some.injEq, Prod.mk.injEq] at h
  exact h.2.symm

theorem number_octet {a : Nat} {rest : List Char} (ha : a < 256)
    (hrest : ∀ c ∈ rest.head?, digit 10 c = none) :
    number 10 256 (some 3) false (Nat.toDigits 10 a ++ rest) = some (a, rest) :=
  number_toDigits_of_lt_pow (by decide) (by decide) (by decide) ha (by omega) hrest

theorem number_group {g : Nat} {rest : List Char} (hg : g < 65536)
    (hrest : ∀ c ∈ rest.head?, digit 16 c = none) :
    number 16 65536 (some 4) true (Nat.toDigits 16 g ++ rest) = some (g, rest) :=
  number_toDigits_of_lt_pow (by decide) (by decide) (by decide) hg (by omega) hrest

theorem number_port {p : Nat} {rest : List Char} (hp : p < 65536)
    (hrest : ∀ c ∈ rest.head?, digit 10 c = none) :
    number 10 65536 none true (Nat.toDigits 10 p ++ rest) = some (p, rest) :=
  number_toDigits (by decide) (by decide) hp (fun _ hm => by cases hm) hrest

/-! ### The dotted form of four octets -/

theorem toList_renderV4 (a b c d : Nat) :
    (renderV4 [a, b, c, d]).toList =
      Nat.toDigits 10 a ++ '.' :: (Nat.toDigits 10 b ++ '.' :: (Nat.toDigits 10 c ++ '.' ::
        Nat.toDigits 10 d)) := by
  simp [renderV4]

theorem ipv4_renderV4 {a b c d : Nat} {rest : List Char} (ha : a < 256) (hb : b < 256)
    (hc : c < 256) (hd : d < 256) (hrest : ∀ c ∈ rest.head?, digit 10 c = none) :
    ipv4 ((renderV4 [a, b, c, d]).toList ++ rest) = some ([a, b, c, d], rest) := by
  have hdot : ∀ r, ∀ c ∈ ('.' :: r).head?, digit 10 c = none := fun _ _ h => by cases h; rfl
  rw [toList_renderV4]
  simp only [List.append_assoc, List.cons_append]
  simp [ipv4, number_octet ha (hdot _), number_octet hb (hdot _), number_octet hc (hdot _),
    number_octet hd hrest, exactly]

theorem ipv4_eq_none {cs : List Char} (h : number 10 256 (some 3) false cs = none) :
    ipv4 cs = none := by
  simp [ipv4, h]

/-- Decimal digits that stop before a point. -/
theorem digitRun_rest_ne_dot {cs rest : List Char} (hcs : '.' ∉ cs)
    (hrest : ∀ c ∈ rest.head?, digit 10 c = none ∧ c ≠ '.') :
    ∀ c ∈ (digitRun 10 (cs ++ rest)).2.head?, c ≠ '.' := by
  induction cs with
  | nil =>
    cases rest with
    | nil => simp [digitRun]
    | cons c r => simp [digitRun, (hrest c rfl).1, (hrest c rfl).2]
  | cons c cs ih =>
    have hc : c ≠ '.' := fun h => hcs (h ▸ List.mem_cons_self)
    simp only [List.cons_append, digitRun]
    split
    · exact ih (fun h => hcs (List.mem_cons_of_mem c h))
    · simpa using hc

theorem ipv4_eq_none_of_rest {cs : List Char} (h : ∀ c ∈ (digitRun 10 cs).2.head?, c ≠ '.') :
    ipv4 cs = none := by
  cases hn : number 10 256 (some 3) false cs with
  | none => simp [ipv4, hn]
  | some res =>
    obtain ⟨a, r⟩ := res
    have hr := rest_of_number hn
    subst hr
    cases hr : (digitRun 10 cs).2 with
    | nil => simp [ipv4, hn, hr, exactly]
    | cons c r => simp_all [ipv4, exactly]

/-- A hexadecimal group is never the start of an IPv4 address, whatever follows it that is
    neither a decimal digit nor a point. -/
theorem ipv4_group_eq_none (g : Nat) {rest : List Char}
    (hrest : ∀ c ∈ rest.head?, digit 10 c = none ∧ c ≠ '.') :
    ipv4 (Nat.toDigits 16 g ++ rest) = none := by
  refine ipv4_eq_none_of_rest (digitRun_rest_ne_dot (fun h => ?_) hrest)
  have := isSome_digit_of_mem_toDigits (by decide) (by decide) h
  simp [digit] at this

/-! ### Runs of groups -/

theorem separated_true {α : Type} (inner : Reader α) (cs : List Char) :
    separated true inner cs = inner cs := rfl

theorem separated_false_cons {α : Type} (inner : Reader α) (cs : List Char) :
    separated false inner (':' :: cs) = inner cs := by
  simp [separated, exactly]

theorem separated_false_eq_none {α : Type} (inner : Reader α) {cs : List Char}
    (h : cs.head? ≠ some ':') : separated false inner cs = none := by
  cases cs with
  | nil => rfl
  | cons c cs =>
    have hc : c ≠ ':' := fun hc => h (by simp [hc])
    simp [separated, exactly, hc]

theorem groups_stop {limit : Nat} {first : Bool} {cs : List Char}
    (h4 : separated first ipv4 cs = none)
    (hg : separated first (number 16 65536 (some 4) true) cs = none) :
    groups limit first cs = some (([], false), cs) := by
  cases limit with
  | zero => rfl
  | succ limit => simp [groups, h4, hg]

theorem groups_group {limit : Nat} {first : Bool} {cs r rest : List Char} {g : Nat}
    {gs : List Nat} {v4 : Bool} (h4 : separated first ipv4 cs = none)
    (hg : separated first (number 16 65536 (some 4) true) cs = some (g, r))
    (hnext : groups limit false r = some ((gs, v4), rest)) :
    groups (limit + 1) first cs = some ((g :: gs, v4), rest) := by
  simp [groups, h4, hg, hnext]

theorem groups_v4 {limit : Nat} {first : Bool} {cs r : List Char} {a b c d : Nat}
    (hl : 1 ≤ limit) (h4 : separated first ipv4 cs = some ([a, b, c, d], r)) :
    groups (limit + 1) first cs = some (([a * 256 + b, c * 256 + d], true), r) := by
  simp [groups, h4, hl]

/-- The text does not go on with a digit or a point, so no number or address continues. -/
def Halts (l : List Char) : Prop := ∀ c ∈ l.head?, digit 16 c = none ∧ c ≠ '.'

theorem Halts.decimal {l : List Char} (h : Halts l) : ∀ c ∈ l.head?, digit 10 c = none ∧ c ≠ '.' :=
  fun c hc => ⟨digit_eq_none_of_le (by decide) (h c hc).1, (h c hc).2⟩

theorem Halts.hex {l : List Char} (h : Halts l) : ∀ c ∈ l.head?, digit 16 c = none :=
  fun c hc => (h c hc).1

theorem halts_colon (r : List Char) : Halts (':' :: r) := by
  rintro c hc
  cases hc
  exact ⟨rfl, by decide⟩

/-- What follows the last group of an address: nothing that could continue it. -/
def EndsAddress (rest : List Char) : Prop := Halts rest ∧ rest.head? ≠ some ':'

/-- What may follow a run of groups: the `::` of a compressed address, or the address's end. -/
def GroupsEnd (rest : List Char) : Prop := (∃ r, rest = ':' :: ':' :: r) ∨ EndsAddress rest

theorem GroupsEnd.halts {rest : List Char} (h : GroupsEnd rest) : Halts rest := by
  rcases h with ⟨r, rfl⟩ | h
  · exact halts_colon _
  · exact h.1

theorem GroupsEnd.stops {rest : List Char} (h : GroupsEnd rest) (first : Bool) :
    separated first ipv4 rest = none ∧
      separated first (number 16 65536 (some 4) true) rest = none := by
  cases first with
  | true =>
    rw [separated_true, separated_true]
    exact ⟨ipv4_eq_none (number_eq_none fun c hc => (h.halts.decimal c hc).1),
      number_eq_none h.halts.hex⟩
  | false =>
    rcases h with ⟨r, rfl⟩ | h
    · simp only [separated_false_cons]
      exact ⟨ipv4_eq_none (number_eq_none fun c hc => by cases hc; rfl),
        number_eq_none fun c hc => by cases hc; rfl⟩
    · exact ⟨separated_false_eq_none _ h.2, separated_false_eq_none _ h.2⟩

/-- One hexadecimal group, behind its separator, is read as a group and not as an IPv4 tail. -/
theorem groups_hex {limit : Nat} {first : Bool} {cs r rest : List Char} {g : Nat}
    {gs : List Nat} {v4 : Bool}
    (hcs : ∀ {α : Type} (inner : Reader α), separated first inner cs = inner (Nat.toDigits 16 g ++ r))
    (hg : g < 65536) (hr : Halts r) (hnext : groups limit false r = some ((gs, v4), rest)) :
    groups (limit + 1) first cs = some ((g :: gs, v4), rest) :=
  groups_group (by rw [hcs]; exact ipv4_group_eq_none g hr.decimal)
    (by rw [hcs]; exact number_group hg hr.hex) hnext

/-- Groups after the first, each behind its colon. -/
def sepGroups (gs : List Nat) : List Char := gs.flatMap fun g => ':' :: Nat.toDigits 16 g

theorem halts_sepGroups_append (gs : List Nat) {rest : List Char} (h : Halts rest) :
    Halts (sepGroups gs ++ rest) := by
  cases gs with
  | nil => simpa [sepGroups] using h
  | cons g gs => simpa [sepGroups] using halts_colon _

/-- A run of groups behind colons is read back up to what follows it. -/
theorem groups_sepGroups {gs : List Nat} {rest : List Char} (hgs : ∀ g ∈ gs, g < 65536)
    (hend : GroupsEnd rest) {limit : Nat} (hlen : gs.length ≤ limit) :
    groups limit false (sepGroups gs ++ rest) = some ((gs, false), rest) := by
  induction gs generalizing limit with
  | nil => exact groups_stop (hend.stops false).1 (hend.stops false).2
  | cons g gs ih =>
    obtain ⟨limit, rfl⟩ : ∃ l, limit = l + 1 := ⟨limit - 1, by simp at hlen; omega⟩
    have hsplit : sepGroups (g :: gs) ++ rest =
        ':' :: (Nat.toDigits 16 g ++ (sepGroups gs ++ rest)) := by
      simp [sepGroups]
    rw [hsplit]
    exact groups_hex (fun inner => separated_false_cons inner _) (hgs g (by simp))
      (halts_sepGroups_append gs hend.halts)
      (ih (fun x hx => hgs x (by simp [hx])) (by simp at hlen; omega))

theorem toList_joinGroups_nil : (joinGroups []).toList = [] := rfl

theorem toList_joinGroups_cons (g : Nat) (gs : List Nat) :
    (joinGroups (g :: gs)).toList = Nat.toDigits 16 g ++ sepGroups gs := by
  induction gs generalizing g with
  | nil => simp [joinGroups, hex, sepGroups]
  | cons g' gs ih =>
    have h : joinGroups (g :: g' :: gs) = hex g ++ ":" ++ joinGroups (g' :: gs) := by
      simp [joinGroups]
    rw [h, String.toList_append, String.toList_append, ih]
    simp [hex, sepGroups]

/-- Groups joined by colons are read back up to what follows them. -/
theorem groups_joinGroups {gs : List Nat} {rest : List Char} (hgs : ∀ g ∈ gs, g < 65536)
    (hend : GroupsEnd rest) {limit : Nat} (hlen : gs.length ≤ limit) :
    groups limit true ((joinGroups gs).toList ++ rest) = some ((gs, false), rest) := by
  cases gs with
  | nil => exact groups_stop (hend.stops true).1 (hend.stops true).2
  | cons g gs =>
    obtain ⟨limit, rfl⟩ : ∃ l, limit = l + 1 := ⟨limit - 1, by simp at hlen; omega⟩
    rw [toList_joinGroups_cons, List.append_assoc]
    exact groups_hex (fun inner => separated_true inner _) (hgs g (by simp))
      (halts_sepGroups_append gs hend.halts)
      (groups_sepGroups (fun x hx => hgs x (by simp [hx])) hend (by simp at hlen; omega))

/-! ### The compressed zero run -/

/-- A fold whose accumulator keeps an invariant of the prefix it has read. -/
theorem foldl_prefix_inv {α β : Type} (motive : List α → β → Prop) {f : β → α → β}
    (hstep : ∀ p a acc, motive p acc → motive (p ++ [a]) (f acc a)) (l : List α) :
    ∀ p acc, motive p acc → motive (p ++ l) (l.foldl f acc) := by
  induction l with
  | nil => simp
  | cons a l ih =>
    intro p acc h
    simpa using ih (p ++ [a]) (f acc a) (hstep p a acc h)

/-- The `l` groups from position `s` are zero. -/
def ZeroSpan (gs : List Nat) (s l : Nat) : Prop :=
  s + l ≤ gs.length ∧ (gs.drop s).take l = List.replicate l 0

theorem ZeroSpan.empty (gs : List Nat) (s : Nat) (h : s ≤ gs.length) : ZeroSpan gs s 0 :=
  ⟨by omega, by simp⟩

theorem ZeroSpan.append {gs : List Nat} {s l : Nat} (h : ZeroSpan gs s l) (g : Nat) :
    ZeroSpan (gs ++ [g]) s l := by
  have := h.1
  refine ⟨by simp; omega, ?_⟩
  rw [List.drop_append_of_le_length (by omega), List.take_append_of_le_length (by simp; omega)]
  exact h.2

theorem ZeroSpan.extend {gs : List Nat} {s l : Nat} (h : ZeroSpan gs s l)
    (hend : s + l = gs.length) : ZeroSpan (gs ++ [0]) s (l + 1) := by
  refine ⟨by simp; omega, ?_⟩
  have hrun : gs.drop s = List.replicate l 0 := by
    rw [← h.2, List.take_of_length_le (by simp; omega)]
  rw [List.drop_append_of_le_length (by omega), hrun, List.take_of_length_le (by simp),
    List.replicate_succ']

theorem ZeroSpan.split {gs : List Nat} {s l : Nat} (h : ZeroSpan gs s l) :
    gs = gs.take s ++ List.replicate l 0 ++ gs.drop (s + l) := by
  conv_lhs => rw [← List.take_append_drop s gs, ← List.take_append_drop l (gs.drop s)]
  rw [h.2, List.drop_drop, List.append_assoc]

/-- What the scan of `longestZeroRun` keeps after reading a prefix `p`: its position, and the
    best and the current run, both runs of zeros of `p`, the current one ending at the position. -/
structure ZeroRunInv (p : List Nat) (acc : (Nat × Nat) × (Nat × Nat) × Nat) : Prop where
  pos : acc.2.2 = p.length
  best : ZeroSpan p acc.1.1 acc.1.2
  cur : ZeroSpan p acc.2.1.1 acc.2.1.2
  cur_ends : 0 < acc.2.1.2 → acc.2.1.1 + acc.2.1.2 = p.length

/-- The run `longestZeroRun` reports is a run of zero groups. -/
theorem zeroSpan_longestZeroRun (gs : List Nat) :
    ZeroSpan gs (longestZeroRun gs).1 (longestZeroRun gs).2 := by
  unfold longestZeroRun
  refine (foldl_prefix_inv ZeroRunInv ?_ gs [] _
    ⟨rfl, ZeroSpan.empty _ _ le_rfl, ZeroSpan.empty _ _ le_rfl, by simp⟩).best
  rintro p g ⟨⟨bs, bl⟩, ⟨cs, cl⟩, i⟩ ⟨hi, hbest, hcur, hrun⟩
  dsimp only at hi hbest hcur hrun ⊢
  subst hi
  -- the current run either grows by the new zero group or is reset
  generalize hc : (if g = 0 then if cl = 0 then (p.length, 1) else (cs, cl + 1) else (0, 0)) = cur
  have hcur' : ZeroSpan (p ++ [g]) cur.1 cur.2 ∧
      (0 < cur.2 → cur.1 + cur.2 = (p ++ [g]).length) := by
    subst hc
    by_cases hg : g = 0
    · subst hg
      by_cases hcl : cl = 0
      · simp only [if_true, hcl]
        exact ⟨(ZeroSpan.empty p _ le_rfl).extend rfl, by simp⟩
      · simp only [if_true, hcl, if_false]
        exact ⟨hcur.extend (hrun (by omega)), by have := hrun (by omega); simp; omega⟩
    · simp only [hg, if_false]
      exact ⟨ZeroSpan.empty _ _ (by simp), by simp⟩
  refine ⟨by simp, ?_, hcur'.1, hcur'.2⟩
  -- the best run is replaced only by a longer current run
  split
  · exact hcur'.1
  · exact hbest.append g

/-! ### Reading the three written forms of an IPv6 address -/

section ipv6

variable {rest : List Char} (hend : EndsAddress rest)
include hend

/-- Eight groups written in full. -/
theorem ipv6_joinGroups {gs : List Nat} (hgs : ∀ g ∈ gs, g < 65536) (hlen : gs.length = 8) :
    ipv6 ((joinGroups gs).toList ++ rest) = some (gs, rest) := by
  simp [ipv6, groups_joinGroups hgs (.inr hend) (Nat.le_of_eq hlen), hlen]

/-- Groups on both sides of a `::` that stands for the zero groups between them. -/
theorem ipv6_compressed {head tail : List Nat} (hh : ∀ g ∈ head, g < 65536)
    (ht : ∀ g ∈ tail, g < 65536) (hlen : head.length + tail.length < 8) :
    ipv6 ((joinGroups head).toList ++ ':' :: ':' :: ((joinGroups tail).toList ++ rest)) =
      some (head ++ List.replicate (8 - head.length - tail.length) 0 ++ tail, rest) := by
  have hhead := groups_joinGroups hh (.inl ⟨(joinGroups tail).toList ++ rest, rfl⟩)
    (show head.length ≤ 8 by omega)
  have htail := groups_joinGroups ht (.inr hend) (show tail.length ≤ 7 - head.length by omega)
  simp [ipv6, hhead, htail, exactly, show head.length ≠ 8 by omega]

/-- An IPv4-mapped address, with its dotted tail. -/
theorem ipv6_mapped {x y : Nat} (hx : x < 65536) (hy : y < 65536) :
    ipv6 (("::ffff:" ++ renderV4 [x / 256, x % 256, y / 256, y % 256]).toList ++ rest) =
      some ([0, 0, 0, 0, 0, 65535, x, y], rest) := by
  have hchars : ("::ffff:" ++ renderV4 [x / 256, x % 256, y / 256, y % 256]).toList ++ rest =
      ':' :: ':' :: (Nat.toDigits 16 65535 ++ ':' ::
        ((renderV4 [x / 256, x % 256, y / 256, y % 256]).toList ++ rest)) := by
    simp [Nat.toDigits, Nat.toDigitsCore, Nat.digitChar]
  -- no group starts at the leading colon
  have hgap : GroupsEnd (':' :: ':' :: (Nat.toDigits 16 65535 ++ ':' ::
      ((renderV4 [x / 256, x % 256, y / 256, y % 256]).toList ++ rest))) := .inl ⟨_, rfl⟩
  have hhead : groups 8 true _ = _ := groups_stop (hgap.stops true).1 (hgap.stops true).2
  have hv4 := ipv4_renderV4 (show x / 256 < 256 by omega) (show x % 256 < 256 by omega)
    (show y / 256 < 256 by omega) (show y % 256 < 256 by omega)
    (fun c hc => (hend.1.decimal c hc).1)
  have htail : groups 7 true (Nat.toDigits 16 65535 ++ ':' ::
      ((renderV4 [x / 256, x % 256, y / 256, y % 256]).toList ++ rest)) =
      some (([65535, x, y], true), rest) := by
    -- `ffff` is a group; the dotted tail after it is two more
    refine groups_hex (fun inner => separated_true inner _) (by decide) (halts_colon _) ?_
    rw [groups_v4 (by decide) (by rw [separated_false_cons]; exact hv4), Nat.div_add_mod',
      Nat.div_add_mod']
  rw [hchars]
  simp [ipv6, hhead, htail, exactly]

end ipv6

/-- The written form of eight groups is read back, whichever of its three forms it takes. -/
theorem ipv6_renderV6 {gs : List Nat} {rest : List Char} (hgs : ∀ g ∈ gs, g < 65536)
    (hlen : gs.length = 8) (hend : EndsAddress rest) :
    ipv6 ((renderV6 gs).toList ++ rest) = some (gs, rest) := by
  unfold renderV6
  split
  next x y => exact ipv6_mapped hend (hgs x (by simp)) (hgs y (by simp))
  next =>
    have hz := zeroSpan_longestZeroRun gs
    generalize longestZeroRun gs = run at hz ⊢
    obtain ⟨s, l⟩ := run
    have := hz.1
    dsimp only at hz ⊢
    split
    · -- the `::` stands for the run of `l` zero groups from `s`
      have hchars : (joinGroups (gs.take s) ++ "::" ++ joinGroups (gs.drop (s + l))).toList ++
          rest = (joinGroups (gs.take s)).toList ++ ':' :: ':' ::
            ((joinGroups (gs.drop (s + l))).toList ++ rest) := by
        simp
      rw [hchars, ipv6_compressed hend (fun g hg => hgs g (List.mem_of_mem_take hg))
        (fun g hg => hgs g (List.mem_of_mem_drop hg)) (by simp; omega)]
      have hgap : 8 - (gs.take s).length - (gs.drop (s + l)).length = l := by simp; omega
      rw [hgap, ← hz.split]
    · exact ipv6_joinGroups hend hgs hlen

/-! ### Socket addresses -/

/-- An address fits its kind: four octets, or eight 16-bit groups. -/
def IpAddr.Valid : IpAddr → Prop
  | .v4 o => o.length = 4 ∧ ∀ x ∈ o, x < 256
  | .v6 gs => gs.length = 8 ∧ ∀ g ∈ gs, g < 65536

/-- A socket address whose address fits its kind and whose port fits 16 bits. -/
def SocketAddr.Valid (a : SocketAddr) : Prop := a.ip.Valid ∧ a.port < 65536

theorem IpAddr.Valid.octets {o : List Nat} (h : (IpAddr.v4 o).Valid) :
    ∃ a b c d, o = [a, b, c, d] ∧ a < 256 ∧ b < 256 ∧ c < 256 ∧ d < 256 := by
  obtain ⟨hlen, ho⟩ := h
  rcases o with _ | ⟨a, _ | ⟨b, _ | ⟨c, _ | ⟨d, _ | ⟨e, o⟩⟩⟩⟩⟩ <;> simp_all

theorem port_toDigits {p : Nat} (hp : p < 65536) :
    port (':' :: Nat.toDigits 10 p) = some (p, []) := by
  have h : number 10 65536 none true (Nat.toDigits 10 p ++ []) = some (p, []) :=
    number_port hp (fun _ hc => by cases hc)
  simpa [port, exactly] using h

theorem socketV4_eq_none_of_bracket (cs : List Char) : socketV4 ('[' :: cs) = none := by
  have h : ipv4 ('[' :: cs) = none := ipv4_eq_none (number_eq_none fun c hc => by cases hc; rfl)
  simp [socketV4, h]

theorem socketV4_renderV4 {a b c d p : Nat} (ha : a < 256) (hb : b < 256) (hc : c < 256)
    (hd : d < 256) (hp : p < 65536) :
    socketV4 ((renderV4 [a, b, c, d]).toList ++ ':' :: Nat.toDigits 10 p) =
      some ({ ip := .v4 [a, b, c, d], port := p }, []) := by
  simp [socketV4, ipv4_renderV4 ha hb hc hd (fun c hc => ((halts_colon _).decimal c hc).1),
    port_toDigits hp]

theorem socketV6_renderV6 {gs : List Nat} {p : Nat} (hgs : ∀ g ∈ gs, g < 65536)
    (hlen : gs.length = 8) (hp : p < 65536) :
    socketV6 ('[' :: ((renderV6 gs).toList ++ ']' :: ':' :: Nat.toDigits 10 p)) =
      some ({ ip := .v6 gs, port := p }, []) := by
  have hend : EndsAddress (']' :: ':' :: Nat.toDigits 10 p) :=
    ⟨fun c hc => by cases hc; exact ⟨rfl, by decide⟩, by simp⟩
  simp [socketV6, exactly, ipv6_renderV6 hgs hlen hend, port_toDigits hp]

end Affinity.Net
