/-
# The order of timestamps

The store compares the texts of timestamps in SQL and the instants in Python.  The texts of
two instants compare like the instants (`isoformat_lt_iff`), although a text without a
fraction is shorter: the sign of the time zone then stands where the other text has its
decimal point, and it is the smaller character.  The text is read back exactly.
-/
import ControlPlane.Calendar
import ControlPlane.Store.Approvals

namespace ControlPlane.Timestamp

/-! ## Runs of digits -/

/-- The value of a run of digits, by its first digit. -/
theorem ofDigitChars_cons_zero (c : Char) (l : List Char) :
    Nat.ofDigitChars 10 (c :: l) 0 =
      (c.toNat - 48) * 10 ^ l.length + Nat.ofDigitChars 10 l 0 := by
  rw [Nat.ofDigitChars_cons, Nat.ofDigitChars_eq_ofDigitChars_zero, Nat.mul_comm, Nat.mul_zero,
    Nat.zero_add]
  rfl

theorem ofDigitChars_lt {l : List Char} (hl : ∀ c ∈ l, c.isDigit = true) :
    Nat.ofDigitChars 10 l 0 < 10 ^ l.length := by
  induction l with
  | nil => simp
  | cons c l ih =>
      have hc := digit_bounds (hl c List.mem_cons_self)
      have hrest := ih fun d hd => hl d (List.mem_cons_of_mem c hd)
      have hnine : (c.toNat - 48) * 10 ^ l.length ≤ 9 * 10 ^ l.length :=
        Nat.mul_le_mul_right _ (by omega)
      rw [ofDigitChars_cons_zero, List.length_cons, Nat.pow_succ]
      omega

/-- Runs of the same length compare like their values, whatever follows them. -/
theorem append_lt_of_value_lt {l l' : List Char} (hl : ∀ c ∈ l, c.isDigit = true)
    (hl' : ∀ c ∈ l', c.isDigit = true) (hlen : l.length = l'.length)
    (hlt : Nat.ofDigitChars 10 l 0 < Nat.ofDigitChars 10 l' 0) (r r' : List Char) :
    l ++ r < l' ++ r' := by
  induction l generalizing l' with
  | nil =>
      have hnil : l' = [] := List.eq_nil_of_length_eq_zero hlen.symm
      subst hnil
      exact absurd hlt (Nat.lt_irrefl _)
  | cons c l ih =>
      cases l' with
      | nil => simp at hlen
      | cons c' l' =>
          have hlen' : l.length = l'.length := by simpa using hlen
          have hc := digit_bounds (hl c List.mem_cons_self)
          have hc' := digit_bounds (hl' c' List.mem_cons_self)
          have htail : ∀ d ∈ l, d.isDigit = true := fun d hd => hl d (List.mem_cons_of_mem c hd)
          have htail' : ∀ d ∈ l', d.isDigit = true :=
            fun d hd => hl' d (List.mem_cons_of_mem c' hd)
          rw [ofDigitChars_cons_zero, ofDigitChars_cons_zero, hlen'] at hlt
          rw [List.cons_append, List.cons_append, List.cons_lt_cons_iff]
          by_cases hless : c < c'
          · exact Or.inl hless
          · right
            have hge : c'.toNat ≤ c.toNat := by
              by_contra h
              exact hless (by rw [Char.lt_def, UInt32.lt_iff_toNat_lt]; exact Nat.lt_of_not_le h)
            -- a larger first digit would outweigh the rest
            have hbound := ofDigitChars_lt htail'
            have heq : c.toNat = c'.toNat := by
              by_contra hne
              have hstep : (c'.toNat - 48 + 1) * 10 ^ l'.length ≤
                  (c.toNat - 48) * 10 ^ l'.length := Nat.mul_le_mul_right _ (by omega)
              rw [Nat.add_mul] at hstep
              omega
            have hchar : c = c' := Char.toNat_inj.mp heq
            subst hchar
            exact ⟨rfl, ih htail htail' hlen' (by omega)⟩

/-- A field compares first by its number, then by what follows it. -/
theorem field_lt {k : ℕ} (hk : 0 < k) {m n : ℤ} (hm : 0 ≤ m) (hn : n < 10 ^ k)
    {r r' : List Char} (h : m < n ∨ m = n ∧ r < r') : pad k m ++ r < pad k n ++ r' := by
  rcases h with hlt | ⟨rfl, hr⟩
  · have hdm := digits_pad hk (Int.lt_trans hlt hn)
    have hdn := digits_pad hk hn
    apply append_lt_of_value_lt hdm.2 hdn.2
    · rw [hdm.1, hdn.1]
    · rw [ofDigitChars_pad, ofDigitChars_pad]
      omega
  · exact List.append_left_lt hr

theorem mark_lt (c : Char) {r r' : List Char} (h : r < r') : c :: r < c :: r' :=
  List.cons_lt_cons_iff.mpr (Or.inr ⟨rfl, h⟩)

/-! ## The parts of a text -/

/-- The fraction of a second, when there is one, and the time zone. -/
def fractionText (micros : ℤ) : List Char :=
  (if micros = 0 then [] else '.' :: pad 6 micros) ++ "+00:00".toList

/-- The time of day, in microseconds, with the time zone. -/
def clockText (rest : ℤ) : List Char :=
  pad 2 (rest / 1000000 / 3600) ++ ':' :: (pad 2 (rest / 1000000 / 60 % 60) ++
    ':' :: (pad 2 (rest / 1000000 % 60) ++ fractionText (rest % 1000000)))

theorem toList_isoformat (t : Instant) :
    (isoformat t).toList =
      pad 4 (civil (t / dayLength)).1 ++ '-' :: (pad 2 (civil (t / dayLength)).2.1 ++
        '-' :: (pad 2 (civil (t / dayLength)).2.2 ++ 'T' :: clockText (t % dayLength))) := by
  unfold isoformat clockText fractionText
  simp only [String.toList_ofList, List.append_assoc, List.cons_append, List.nil_append]

/-- The sign of the time zone is smaller than a decimal point. -/
theorem fractionText_lt {u v : ℤ} (hu : 0 ≤ u) (huv : u < v) (hv : v < 1000000) :
    fractionText u < fractionText v := by
  have hv0 : v ≠ 0 := by omega
  unfold fractionText
  by_cases hu0 : u = 0
  · simp only [hu0, hv0, if_true, if_false]
    exact List.cons_lt_cons_iff.mpr (Or.inl (by decide))
  · simp only [hu0, hv0, if_false, List.cons_append]
    apply mark_lt
    exact field_lt (by decide) hu (by omega) (Or.inl huv)

theorem clockText_lt {a b : ℤ} (ha : 0 ≤ a) (hab : a < b) (hb : b < 86400000000) :
    clockText a < clockText b := by
  obtain ⟨s, hs⟩ : ∃ s, a / 1000000 = s := ⟨_, rfl⟩
  obtain ⟨s', hs'⟩ : ∃ s', b / 1000000 = s' := ⟨_, rfl⟩
  unfold clockText
  rw [hs, hs']
  have hs0 : 0 ≤ s := by omega
  have hs1 : s' < 86400 := by omega
  -- seconds first, then the fraction
  have horder : s < s' ∨ s = s' ∧ a % 1000000 < b % 1000000 := by omega
  apply field_lt (by decide) (by omega) (by omega)
  by_cases hhour : s / 3600 < s' / 3600
  · exact Or.inl hhour
  · refine Or.inr ⟨by omega, mark_lt ':' ?_⟩
    apply field_lt (by decide) (by omega) (by omega)
    by_cases hminute : s / 60 % 60 < s' / 60 % 60
    · exact Or.inl hminute
    · refine Or.inr ⟨by omega, mark_lt ':' ?_⟩
      apply field_lt (by decide) (by omega) (by omega)
      by_cases hsecond : s % 60 < s' % 60
      · exact Or.inl hsecond
      · refine Or.inr ⟨by omega, ?_⟩
        apply fractionText_lt <;> omega

/-- An earlier instant is on an earlier day, or earlier on the same day. -/
theorem day_or_clock_lt {a b : ℤ} (h : a < b) :
    a / dayLength < b / dayLength ∨
      a / dayLength = b / dayLength ∧ a % dayLength < b % dayLength := by
  unfold dayLength
  omega

/-- Earlier instants have smaller texts. -/
theorem isoformat_lt {a b : Instant} (ha : IsDatetime a) (hb : IsDatetime b) (hab : a < b) :
    isoformat a < isoformat b := by
  rw [String.lt_iff_toList_lt, toList_isoformat, toList_isoformat]
  obtain ⟨⟨hmonth, -⟩, hday, -⟩ := civil_range (a / dayLength)
  obtain ⟨⟨-, hmonth'⟩, -, hday'⟩ := civil_range (b / dayLength)
  obtain ⟨hyear, -⟩ := ha
  obtain ⟨-, hyear'⟩ := hb
  have hrest : 0 ≤ a % dayLength := Int.emod_nonneg a (by decide)
  have hrest' : b % dayLength < 86400000000 := Int.emod_lt_of_pos b (by decide)
  apply field_lt (by decide) (by omega) (by omega)
  rcases day_or_clock_lt hab with hlt | ⟨heq, hlt⟩
  · rcases civil_lt hlt with h | ⟨hy, h | ⟨hm, h⟩⟩
    · exact Or.inl h
    · refine Or.inr ⟨hy, mark_lt '-' ?_⟩
      exact field_lt (by decide) (by omega) (by omega) (Or.inl h)
    · refine Or.inr ⟨hy, mark_lt '-' ?_⟩
      refine field_lt (by decide) (by omega) (by omega) (Or.inr ⟨hm, mark_lt '-' ?_⟩)
      exact field_lt (by decide) (by omega) (by omega) (Or.inl h)
  · refine Or.inr ⟨by rw [heq], mark_lt '-' ?_⟩
    refine field_lt (by decide) (by omega) (by omega) (Or.inr ⟨by rw [heq], mark_lt '-' ?_⟩)
    refine field_lt (by decide) (by omega) (by omega) (Or.inr ⟨by rw [heq], mark_lt 'T' ?_⟩)
    exact clockText_lt hrest hlt hrest'

/-- **The texts of two instants compare like the instants.** -/
theorem isoformat_lt_iff {a b : Instant} (ha : IsDatetime a) (hb : IsDatetime b) :
    isoformat a < isoformat b ↔ a < b := by
  constructor
  · intro h
    by_contra hle
    rcases Int.lt_or_eq_of_le (Int.not_lt.mp hle) with hlt | heq
    · exact absurd (isoformat_lt hb ha hlt) (not_lt_of_gt h)
    · rw [heq] at h
      exact absurd h (lt_irrefl _)
  · exact isoformat_lt ha hb

theorem isoformat_le_iff {a b : Instant} (ha : IsDatetime a) (hb : IsDatetime b) :
    isoformat a ≤ isoformat b ↔ a ≤ b := by
  rw [← not_lt, isoformat_lt_iff hb ha, not_lt]

theorem isoformat_inj {a b : Instant} (ha : IsDatetime a) (hb : IsDatetime b) :
    isoformat a = isoformat b ↔ a = b := by
  rw [le_antisymm_iff, le_antisymm_iff, isoformat_le_iff ha hb, isoformat_le_iff hb ha]

/-- **The text of a datetime denotes that instant.** -/
theorem parseIso_isoformat_self {t : Instant} (h : IsDatetime t) :
    parseIso (isoformat t) = some t := by
  rw [parseIso_isoformat_fields h, dayOf_civil]
  have hday : days (t / dayLength) + t % dayLength = t := Int.ediv_mul_add_emod t dayLength
  obtain ⟨rest, hrest⟩ : ∃ rest : ℤ, t % dayLength = rest := ⟨_, rfl⟩
  rw [hrest] at hday ⊢
  have hclock : seconds (rest / 1000000 / 3600 * 3600 + rest / 1000000 / 60 % 60 * 60 +
      rest / 1000000 % 60) + rest % 1000000 = rest := by
    unfold seconds
    omega
  rw [Int.add_assoc, hclock, hday]

end ControlPlane.Timestamp

namespace ControlPlane

open Timestamp Transaction

/-! ## Aware datetimes -/

/-- An aware datetime: what its clock shows, and how far that clock is ahead of UTC. -/
structure AwareDatetime where
  /-- the reading of the clock, as the instant at which a clock in UTC shows it -/
  wall : Instant
  /-- `utcoffset()`, in microseconds -/
  offset : ℤ
  isDatetime : IsDatetime wall
  offset_lt : -dayLength < offset ∧ offset < dayLength

/-- The instant that two aware datetimes are compared by. -/
def AwareDatetime.instant (value : AwareDatetime) : Instant := value.wall - value.offset

/-- `value.astimezone(UTC)`, `none` where the date overflows. -/
def AwareDatetime.astimezone (value : AwareDatetime) : Option Instant :=
  if IsDatetime value.instant then some value.instant else none

/-- `_isoformat`. -/
def isoformatUtc (value : AwareDatetime) : Option String :=
  value.astimezone.map isoformat

theorem isoformatUtc_eq_some {value : AwareDatetime} {text : String} :
    isoformatUtc value = some text ↔
      IsDatetime value.instant ∧ isoformat value.instant = text := by
  unfold isoformatUtc AwareDatetime.astimezone
  by_cases h : IsDatetime value.instant
  · simp [h]
  · simp [h]

/-- The texts of two aware datetimes, whatever their time zones. -/
theorem isoformatUtc_order {a b : AwareDatetime} {s t : String} (hs : isoformatUtc a = some s)
    (ht : isoformatUtc b = some t) :
    (s < t ↔ a.instant < b.instant) ∧ (s ≤ t ↔ a.instant ≤ b.instant) ∧
      (s = t ↔ a.instant = b.instant) ∧ parseIso s = some a.instant := by
  obtain ⟨ha, rfl⟩ := isoformatUtc_eq_some.mp hs
  obtain ⟨hb, rfl⟩ := isoformatUtc_eq_some.mp ht
  exact ⟨isoformat_lt_iff ha hb, isoformat_le_iff ha hb, isoformat_inj ha hb,
    parseIso_isoformat_self ha⟩

/-! ## What relies on it -/

/-- The approvals on which `_expire_if_needed` runs its update. -/
def expiresIfNeeded (a : ApprovalRow) (now : Instant) : Prop :=
  ¬ (a.status ≠ .pending ∨ a.expiresAt = "") ∧ isExpired a.expiresAt now = .ok true

theorem isoformat_ne_empty (t : Instant) : isoformat t ≠ "" := by
  intro h
  have hlist := toList_isoformat t
  rw [h] at hlist
  simp at hlist

theorem isExpired_isoformat {t now : Instant} (ht : IsDatetime t) :
    isExpired (isoformat t) now = .ok (decide (t ≤ now)) := by
  unfold isExpired
  rw [parseIso_isoformat_self ht]

/-- The test in SQL and the test in Python agree on an approval that was created by
`create_approval`. -/
theorem expires_iff {expires now : Instant} (hexpires : IsDatetime expires)
    (hnow : IsDatetime now) (a : ApprovalRow) (ha : a.expiresAt = isoformat expires) :
    (expireStaleChange (isoformat now)).guard (.approval a) = true ↔ expiresIfNeeded a now := by
  have hguard : (expireStaleChange (isoformat now)).guard (.approval a) = true ↔
      a.status = .pending ∧ a.expiresAt ≤ isoformat now := by
    show decide _ = true ↔ _
    rw [decide_eq_true_eq]
  rw [hguard, ha, isoformat_le_iff hexpires hnow]
  unfold expiresIfNeeded
  rw [ha, isExpired_isoformat hexpires]
  constructor
  · rintro ⟨hpending, hle⟩
    refine ⟨?_, by rw [decide_eq_true hle]⟩
    rintro (hne | hempty)
    · exact hne hpending
    · exact isoformat_ne_empty expires hempty
  · rintro ⟨hnot, hle⟩
    rw [not_or, not_not] at hnot
    exact ⟨hnot.1, of_decide_eq_true (Except.ok.inj hle)⟩

/-- What `_expire_if_needed` does to the rows when it runs alone. -/
theorem outcome_expireIfNeeded {rows : List Row} {approvalId : String} {a : ApprovalRow}
    (clock : ℕ → Instant) {expires : Instant} (h : findApproval rows approvalId = some a)
    (hexpires : IsDatetime expires) (hnow : IsDatetime (clock 0))
    (ha : a.expiresAt = isoformat expires) :
    outcome (expireIfNeeded approvalId clock) (fun _ => none) rows =
      (.ok (), if (expireStaleChange (isoformat (clock 0))).guard (.approval a) then
        (expireChange approvalId (isoformat (clock 1))).apply rows else rows) := by
  have hiff := expires_iff hexpires hnow a ha
  have hread : fetchAll.run schema (fun _ => none) (.ofRows rows) =
      (.ok rows, ⟨rows, rows, 1⟩) := rfl
  unfold expiresIfNeeded at hiff
  unfold outcome expireIfNeeded
  rw [Prog.run_bind_ok hread, h]
  simp only
  by_cases hskip : a.status ≠ .pending ∨ a.expiresAt = ""
  · have hguard : ¬ (expireStaleChange (isoformat (clock 0))).guard (.approval a) = true := by
      rw [hiff]
      exact fun hboth => hboth.1 hskip
    rw [if_pos hskip, if_neg hguard]
    rfl
  · rw [if_neg hskip]
    have hskip' := hskip
    rw [ha] at hskip'
    rw [ha, isExpired_isoformat hexpires] at hiff ⊢
    by_cases hle : expires ≤ clock 0
    · have hguard : (expireStaleChange (isoformat (clock 0))).guard (.approval a) = true :=
        hiff.mpr ⟨hskip', by rw [decide_eq_true hle]⟩
      rw [if_pos hguard, decide_eq_true hle]
      rfl
    · have hguard : ¬ (expireStaleChange (isoformat (clock 0))).guard (.approval a) = true := by
        intro hguard
        have hexpired := Except.ok.inj (hiff.mp hguard).2
        rw [decide_eq_false hle] at hexpired
        exact Bool.false_ne_true hexpired
      rw [if_neg hguard, decide_eq_false hle]
      rfl

/-- **Text timestamps order like time.**  The texts of aware datetimes compare like their
instants and denote them, wherever the date does not overflow; an approval that
`create_approval` wrote expires by the test in Python exactly when the test in SQL picks it
at that instant; and a decision is older than a cutoff as a text exactly when it is older in
time. -/
theorem isoformatUtc_orders :
    (∀ a b s t, isoformatUtc a = some s → isoformatUtc b = some t →
      (s < t ↔ a.instant < b.instant) ∧ (s ≤ t ↔ a.instant ≤ b.instant) ∧
        (s = t ↔ a.instant = b.instant) ∧ parseIso s = some a.instant) ∧
    (∀ a, (∃ s, isoformatUtc a = some s) ↔ IsDatetime a.instant) ∧
    (∀ decisionId approvalId ttlSeconds created,
      IsDatetime (created + seconds (max ttlSeconds 0)) →
      ∀ (clock : ℕ → Instant) rows a, IsDatetime (clock 0) →
        findApproval rows approvalId = some a →
        a.expiresAt = (newApproval decisionId ttlSeconds approvalId created).expiresAt →
        outcome (expireIfNeeded approvalId clock) (fun _ => none) rows =
          (.ok (), if (expireStaleChange (isoformat (clock 0))).guard (.approval a) then
            (expireChange approvalId (isoformat (clock 1))).apply rows else rows)) ∧
    (∀ (new : NewDecision) decisionId created cutoff, IsDatetime created → IsDatetime cutoff →
      ((new.row decisionId created).createdAt < isoformat cutoff ↔ created < cutoff)) := by
  refine ⟨fun a b s t hs ht => isoformatUtc_order hs ht, fun a => ?_, ?_, ?_⟩
  · constructor
    · rintro ⟨s, hs⟩
      exact (isoformatUtc_eq_some.mp hs).1
    · intro h
      exact ⟨_, isoformatUtc_eq_some.mpr ⟨h, rfl⟩⟩
  · intro decisionId approvalId ttlSeconds created hexpires clock rows a hnow hfind ha
    exact outcome_expireIfNeeded clock hfind hexpires hnow ha
  · intro new decisionId created cutoff hcreated hcutoff
    exact isoformat_lt_iff hcreated hcutoff

end ControlPlane
