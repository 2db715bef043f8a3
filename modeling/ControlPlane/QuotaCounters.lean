/-
# Shared quota counters are exact

The specification counts in the log of the increments: how many a team made in a minute, and
how many tokens on a day (`requestsIn`, `tokensIn`).  The database keeps one tally for each
minute and each day of a team (`Tallied`): a counter that lives at least until its window ends,
or no key when nothing was counted, and a hash that tells of an increment that was made.  Every
increment keeps this (`tallied_incr`), so that a read in the window finds the numbers of the
specification (`counters_exact`).
-/
import ControlPlane.QuotaState
import ControlPlane.TimestampOrder
import Mathlib.Algebra.Order.BigOperators.Group.List

namespace ControlPlane

open Redis (Command Database LuaNumbers Counts intText)

/-! ## The specification -/

/-- An increment that was made. -/
structure Increment where
  team : String
  tokens : ℤ
  time : Reading

/-- The increments among some calls. -/
def increments (events : List QuotaEvent) : List Increment :=
  events.filterMap (fun e => match e.call with
    | .incr team tokens => some ⟨team, tokens, e.time⟩
    | .read _ => none)

/-- The increment falls into a minute of a team. -/
def Increment.inMinute (i : Increment) (team : String) (bucket : ℤ) : Bool :=
  i.team = team ∧ i.time.minuteBucket = bucket

/-- The increment falls on a day of a team. -/
def Increment.onDay (i : Increment) (team : String) (day : ℤ) : Bool :=
  i.team = team ∧ i.time.day = day

/-- The requests of a team in a minute. -/
def requestsIn (log : List Increment) (team : String) (bucket : ℤ) : ℤ :=
  log.countP (fun i => i.inMinute team bucket)

/-- The tokens of a team on a day. -/
def tokensIn (log : List Increment) (team : String) (day : ℤ) : ℤ :=
  ((log.filter (fun i => i.onDay team day)).map (fun i => max i.tokens 0)).sum

theorem requestsIn_append (log more : List Increment) (team : String) (bucket : ℤ) :
    requestsIn (log ++ more) team bucket =
      requestsIn log team bucket + requestsIn more team bucket := by
  unfold requestsIn
  rw [List.countP_append, Nat.cast_add]

theorem tokensIn_append (log more : List Increment) (team : String) (day : ℤ) :
    tokensIn (log ++ more) team day = tokensIn log team day + tokensIn more team day := by
  unfold tokensIn
  rw [List.filter_append, List.map_append, List.sum_append]

theorem requestsIn_singleton (i : Increment) (team : String) (bucket : ℤ) :
    requestsIn [i] team bucket = if i.inMinute team bucket then 1 else 0 := by
  unfold requestsIn
  rw [List.countP_singleton]
  split_ifs with h
  · rfl
  · rfl

theorem tokensIn_singleton (i : Increment) (team : String) (day : ℤ) :
    tokensIn [i] team day = if i.onDay team day then max i.tokens 0 else 0 := by
  unfold tokensIn
  by_cases h : i.onDay team day
  · simp [h]
  · simp [h]

theorem requestsIn_nonneg (log : List Increment) (team : String) (bucket : ℤ) :
    0 ≤ requestsIn log team bucket := Int.natCast_nonneg _

theorem tokensIn_nonneg (log : List Increment) (team : String) (day : ℤ) :
    0 ≤ tokensIn log team day := by
  apply List.sum_nonneg
  intro x hx
  obtain ⟨i, -, rfl⟩ := List.mem_map.mp hx
  exact le_max_right _ _

/-! ## Windows of the clock -/

namespace Reading

variable (t : Reading)

theorem minuteBucket_le : (t.minuteBucket : ℚ) ≤ t.seconds := by
  have hle : t.minuteBucket ≤ ⌊t.seconds⌋ := by
    unfold minuteBucket whole
    omega
  exact le_trans (by exact_mod_cast hle) (Int.floor_le t.seconds)

theorem lt_minuteEnd : t.seconds < (t.minuteBucket + 60 : ℤ) := by
  have hlt : ⌊t.seconds⌋ + 1 ≤ t.minuteBucket + 60 := by
    unfold minuteBucket whole
    omega
  exact lt_of_lt_of_le (Int.lt_floor_add_one t.seconds) (by exact_mod_cast hlt)

theorem dayStart_le : ((t.day * 86400 : ℤ) : ℚ) ≤ t.seconds := by
  have hle : t.day * 86400 ≤ ⌊t.seconds⌋ := by
    unfold day whole
    omega
  exact le_trans (by exact_mod_cast hle) (Int.floor_le t.seconds)

theorem lt_dayEnd : t.seconds < ((t.day + 1) * 86400 : ℤ) := by
  have hlt : ⌊t.seconds⌋ + 1 ≤ (t.day + 1) * 86400 := by
    unfold day whole
    omega
  exact lt_of_lt_of_le (Int.lt_floor_add_one t.seconds) (by exact_mod_cast hlt)

theorem whole_nonneg : 0 ≤ t.whole := Int.floor_nonneg.mpr t.nonneg

theorem whole_lt : t.whole < 253402300800 := by
  have h : (⌊t.seconds⌋ : ℚ) < 253402300800 := lt_of_le_of_lt (Int.floor_le _) t.lt
  exact_mod_cast h

/-- A minute is within a day. -/
theorem day_of_minuteBucket {s t : Reading} (h : s.minuteBucket = t.minuteBucket) :
    s.day = t.day := by
  unfold minuteBucket at h
  unfold day
  omega

/-- The minute of an earlier day has passed. -/
theorem minuteEnd_le {s t : Reading} (hle : s.seconds ≤ t.seconds) (hday : s.day ≠ t.day) :
    ((s.minuteBucket + 60 : ℤ) : ℚ) ≤ t.seconds := by
  have hwhole : s.whole ≤ t.whole := Int.floor_le_floor hle
  have hmin : s.minuteBucket + 60 ≤ t.whole := by
    unfold day at hday
    unfold minuteBucket
    omega
  exact le_trans (by exact_mod_cast hmin) (Int.floor_le t.seconds)

end Reading

/-! ## Dates -/

/-- A day of a year of four digits. -/
def IsDay (day : ℤ) : Prop := 0 ≤ day ∧ day < 2932897

theorem Reading.isDay (t : Reading) : IsDay t.day := by
  have h0 := t.whole_nonneg
  have h1 := t.whole_lt
  unfold IsDay Reading.day
  omega

theorem dateText_toList (day : ℤ) : (dateText day).toList =
    Timestamp.pad 4 (Timestamp.civil day).1 ++ '-' :: (Timestamp.pad 2 (Timestamp.civil day).2.1 ++
      '-' :: Timestamp.pad 2 (Timestamp.civil day).2.2) :=
  String.toList_ofList

/-- Later days have later texts. -/
theorem dateText_lt {a b : ℤ} (ha : IsDay a) (hb : IsDay b) (hab : a < b) :
    (dateText a).toList < (dateText b).toList := by
  have hyear0 : 0 ≤ (Timestamp.civil a).1 := by
    by_cases h0 : a = 0
    · subst h0
      decide
    · have h := @Timestamp.civil_lt 0 a (by unfold IsDay at ha; omega)
      have hfirst : (Timestamp.civil 0).1 = 1970 := by decide
      omega
  have hyear1 : (Timestamp.civil b).1 < 10 ^ 4 := by
    by_cases hlast : b = 2932896
    · subst hlast
      decide
    · have h := @Timestamp.civil_lt b 2932896 (by unfold IsDay at hb; omega)
      have hlast : (Timestamp.civil 2932896).1 = 9999 := by decide
      omega
  obtain ⟨⟨hm0, -⟩, hd0, -⟩ := Timestamp.civil_range a
  obtain ⟨⟨-, hm1⟩, -, hd1⟩ := Timestamp.civil_range b
  have horder := Timestamp.civil_lt hab
  rw [dateText_toList, dateText_toList]
  apply Timestamp.field_lt (by decide) hyear0 hyear1
  rcases horder with hlt | ⟨heq, hrest⟩
  · exact Or.inl hlt
  · refine Or.inr ⟨heq, Timestamp.mark_lt '-' ?_⟩
    apply Timestamp.field_lt (by decide) (by omega) (by omega)
    rcases hrest with hlt | ⟨heq, hday⟩
    · exact Or.inl hlt
    · refine Or.inr ⟨heq, Timestamp.mark_lt '-' ?_⟩
      have hlt := @Timestamp.field_lt 2 (by decide) _ _ (by omega : 0 ≤ (Timestamp.civil a).2.2)
        (by omega : (Timestamp.civil b).2.2 < 10 ^ 2) [] [] (Or.inl hday)
      rwa [List.append_nil, List.append_nil] at hlt

/-- A date is the text of one day. -/
theorem dateText_inj {a b : ℤ} (ha : IsDay a) (hb : IsDay b) (h : dateText a = dateText b) :
    a = b := by
  rcases lt_trichotomy a b with hlt | heq | hgt
  · have := dateText_lt ha hb hlt
    rw [h] at this
    exact absurd this (lt_irrefl _)
  · exact heq
  · have := dateText_lt hb ha hgt
    rw [h] at this
    exact absurd this (lt_irrefl _)

/-! ## Keys -/

/-- The keys of a team. -/
inductive QuotaKey where
  | rpm (team : String) (bucket : ℤ)
  | tokens (team : String) (day : ℤ)
  | hash (team : String)
  deriving DecidableEq

namespace QuotaKey

/-- The key in Redis. -/
def text : QuotaKey → String
  | rpm team bucket => rpmKey team bucket
  | tokens team day => tokensKey team (dateText day)
  | hash team => hashKey team

/-- The team that the key counts for. -/
def team : QuotaKey → String
  | rpm team _ => team
  | tokens team _ => team
  | hash team => team

/-- What follows the team's name. -/
def window : QuotaKey → List Char
  | rpm _ bucket => ':' :: ("rpm:".toList ++ (intText bucket).toList)
  | tokens _ day => ':' :: ("tokens:".toList ++ (dateText day).toList)
  | hash _ => []

/-- Team names have no colon, and dates have years of four digits. -/
def Proper : QuotaKey → Prop
  | rpm team _ => ':' ∉ team.toList
  | tokens team day => ':' ∉ team.toList ∧ IsDay day
  | hash team => ':' ∉ team.toList

theorem Proper.team {k : QuotaKey} (h : k.Proper) : ':' ∉ k.team.toList := by
  cases k with
  | rpm team bucket => exact h
  | tokens team day => exact h.1
  | hash team => exact h

theorem text_toList (k : QuotaKey) :
    k.text.toList = redisKeyPrefix.toList ++ (k.team.toList ++ k.window) := by
  cases k with
  | rpm name bucket => simp [text, team, window, rpmKey]
  | tokens name day => simp [text, team, window, tokensKey]
  | hash name => simp [text, team, window, hashKey]

/-- A name without a colon ends where the first colon is, or with the text. -/
theorem window_cases (k : QuotaKey) : k.window = [] ∨ ∃ r, k.window = ':' :: r := by
  cases k with
  | rpm team bucket => exact Or.inr ⟨_, rfl⟩
  | tokens team day => exact Or.inr ⟨_, rfl⟩
  | hash team => exact Or.inl rfl

theorem before_colon {a b r s : List Char} (ha : ':' ∉ a) (hb : ':' ∉ b)
    (h : a ++ ':' :: r = b ++ ':' :: s) : a = b ∧ r = s := by
  induction a generalizing b with
  | nil =>
    cases b with
    | nil => exact ⟨rfl, (List.cons.inj h).2⟩
    | cons c b =>
      have hc : ':' = c := (List.cons.inj h).1
      exact absurd (hc ▸ List.mem_cons_self) hb
  | cons c a ih =>
    cases b with
    | nil =>
      have hc : c = ':' := (List.cons.inj h).1
      exact absurd (hc ▸ List.mem_cons_self) ha
    | cons c' b =>
      obtain ⟨rfl, htail⟩ := List.cons.inj h
      obtain ⟨rfl, rfl⟩ := ih (fun hmem => ha (List.mem_cons_of_mem _ hmem))
        (fun hmem => hb (List.mem_cons_of_mem _ hmem)) htail
      exact ⟨rfl, rfl⟩

theorem team_and_window {k k' : QuotaKey} (hk : k.Proper) (hk' : k'.Proper)
    (h : k.text = k'.text) : k.team = k'.team ∧ k.window = k'.window := by
  have hl : k.team.toList ++ k.window = k'.team.toList ++ k'.window := by
    refine @List.append_cancel_left _ redisKeyPrefix.toList _ _ ?_
    rw [← text_toList, ← text_toList, h]
  rcases k.window_cases with hw | ⟨r, hw⟩
  · rcases k'.window_cases with hw' | ⟨r', hw'⟩
    · rw [hw, hw', List.append_nil, List.append_nil] at hl
      exact ⟨String.toList_injective hl, hw.trans hw'.symm⟩
    · exfalso
      apply hk.team
      rw [hw, hw', List.append_nil] at hl
      rw [hl]
      exact List.mem_append_right _ List.mem_cons_self
  · rcases k'.window_cases with hw' | ⟨r', hw'⟩
    · exfalso
      apply hk'.team
      rw [hw, hw', List.append_nil] at hl
      rw [← hl]
      exact List.mem_append_right _ List.mem_cons_self
    · rw [hw, hw'] at hl
      obtain ⟨hteam, hr⟩ := before_colon hk.team hk'.team hl
      exact ⟨String.toList_injective hteam, by rw [hw, hw', hr]⟩

/-- Two keys with the same text are the same key. -/
theorem text_inj {k k' : QuotaKey} (hk : k.Proper) (hk' : k'.Proper) (h : k.text = k'.text) :
    k = k' := by
  obtain ⟨hteam, hwindow⟩ := team_and_window hk hk' h
  cases k with
  | rpm t b =>
    cases k' with
    | rpm t' b' =>
      have hb := List.append_cancel_left (List.cons.inj hwindow).2
      have hbucket := Redis.intText_inj (String.toList_injective hb)
      rw [show t = t' from hteam, hbucket]
    | tokens t' d' => exact absurd (List.cons.inj (List.cons.inj hwindow).2).1 (by decide)
    | hash t' => exact absurd hwindow (List.cons_ne_nil _ _)
  | tokens t d =>
    cases k' with
    | rpm t' b' => exact absurd (List.cons.inj (List.cons.inj hwindow).2).1 (by decide)
    | tokens t' d' =>
      have hd := List.append_cancel_left (List.cons.inj hwindow).2
      have hday := dateText_inj hk.2 hk'.2 (String.toList_injective hd)
      rw [show t = t' from hteam, hday]
    | hash t' => exact absurd hwindow (List.cons_ne_nil _ _)
  | hash t =>
    cases k' with
    | rpm t' b' => exact absurd hwindow.symm (List.cons_ne_nil _ _)
    | tokens t' d' => exact absurd hwindow.symm (List.cons_ne_nil _ _)
    | hash t' => rw [show t = t' from hteam]

/-- The keys of a team are not those of its cost. -/
theorem text_ne_costKey (k : QuotaKey) (name : String) : k.text ≠ costKey name := by
  intro h
  have hl : k.text.toList = (costKey name).toList := by rw [h]
  have hcost : (costKey name).toList = 'a' :: 'i' :: ':' :: 'f' ::
      ("inops:".toList ++ (name.toList ++ ":month_to_date_cost_usd".toList)) := by
    simp [costKey, finopsKeyPrefix]
  have htext : k.text.toList = 'a' :: 'i' :: ':' :: 't' ::
      ("enant:".toList ++ (k.team.toList ++ k.window)) := by
    rw [text_toList]
    rfl
  rw [hcost, htext] at hl
  simp at hl

end QuotaKey

/-! ## The script of an increment -/

section Script

variable {lua : LuaNumbers} {now : ℚ} {key : String} {db : Database}

theorem intText_one : intText 1 = "1" := by decide +kernel

theorem tonumber_rpmTtl : lua.tonumber "120" = some 120 := by
  have htext : "120" = intText 120 := by decide +kernel
  rw [htext, lua.tonumber_intText, lua.ofInt_exact 120 (by decide)]
  norm_num

theorem tonumber_tokensTtl : lua.tonumber "172800" = some 172800 := by
  have htext : "172800" = intText 172800 := by decide +kernel
  rw [htext, lua.tonumber_intText, lua.ofInt_exact 172800 (by decide)]
  norm_num

theorem numberArgument_int {ttl : ℤ} (httl : ttl.natAbs ≤ 2 ^ 53) (db : Database) :
    numberArgument lua (some (ttl : ℚ)) db = (.ok (intText ttl), db) := by
  rw [numberArgument, lua.argument_exact ttl httl, Redis.Command.pure_apply]

/-- A key that was just written gets a new deadline, or keeps its own. -/
theorem expireIf_update (condition : Bool) {value : Redis.Value} {deadline : Option ℚ}
    (hdeadline : ∀ x, deadline = some x → now < x) {ttl : ℤ} (hpos : 0 < ttl)
    (httl : ttl.natAbs ≤ 2 ^ 53) :
    expireIf lua now condition key (some (ttl : ℚ))
        (Function.update db key (some { value := value, deadline := deadline })) =
      (.ok (), Function.update db key (some
        { value := value, deadline := if condition then some (now + ttl) else deadline })) := by
  cases condition with
  | false => rfl
  | true =>
    unfold expireIf
    simp only [if_true]
    rw [Redis.Command.bind_ok (numberArgument_int httl _),
      Redis.Command.bind_ok (Redis.expire_update hdeadline hpos), Redis.Command.pure_apply]

/-- A counter is counted up, and expires after its window. -/
theorem count_window (lua : LuaNumbers) {started : Prop} {n delta : ℤ} {windowEnd : ℚ}
    (h : Counts started n windowEnd (db key)) (hnow : now < windowEnd)
    (hrange : Redis.InRange (n + delta)) {ttl : ℤ} (hpos : 0 < ttl) (httl : ttl.natAbs ≤ 2 ^ 53)
    (hend : windowEnd ≤ now + ttl) (condition : Bool) (hfirst : ¬ started → condition = true) :
    ∃ db₁ e, Redis.incrBy now key (intText delta) db = (.ok (n + delta), db₁) ∧
      expireIf lua now condition key (some (ttl : ℚ)) db₁ =
        (.ok (), Function.update db key (some e)) ∧
      Counts True (n + delta) windowEnd (some e) := by
  obtain ⟨deadline, hrun, hlive, hstarted⟩ := Redis.incrBy_counts h hnow hrange
  refine ⟨_, _, hrun, expireIf_update condition hlive hpos httl, ?_, absurd trivial⟩
  intro _
  refine ⟨_, rfl, ?_⟩
  intro x hx
  cases condition with
  | true =>
    rw [if_pos rfl] at hx
    exact Option.some.inj hx ▸ hend
  | false =>
    have hs : started := by
      by_contra hnot
      exact Bool.false_ne_true (hfirst hnot)
    rw [if_neg Bool.false_ne_true] at hx
    exact hstarted hs x hx

/-- The hash takes the fields that an increment writes. -/
theorem hset_summary (hhash : ∀ e, db key = some e → ∃ fields, e.value = .hash fields)
    (start requests tokens today : String) :
    ∃ n fields d, Redis.hset now key [("window_start", start), ("requests_last_minute", requests),
        ("tokens_today", tokens), ("tokens_day", today)] db =
          (.ok n, Function.update db key (some { value := .hash fields, deadline := d })) ∧
      (∀ x, d = some x → now < x) ∧ fields.lookup "window_start" = some start ∧
      fields.lookup "tokens_day" = some today := by
  obtain ⟨n, old, d, hrun, hd⟩ := @Redis.hset_ok now key db [("window_start", start),
    ("requests_last_minute", requests), ("tokens_today", tokens), ("tokens_day", today)] (by
      intro e he
      rcases @Redis.live_eq_none_or db now key with hnone | hsome
      · rw [hnone] at he
        cases he
      · exact hhash e (by rw [← hsome, he]))
  refine ⟨n, _, d, hrun, hd, ?_, ?_⟩
  · simp [Redis.setFields, Redis.lookup_setField]
  · simp [Redis.setFields, Redis.lookup_setField]

variable {rpmKey tokensKey hashKey nowText today : String} {rpmStarted tokensStarted : Prop}
  {rpm tokens delta : ℤ} {minuteEnd dayEnd : ℚ}

/-- **What the script of an increment does**: it counts one request and the tokens, and the
hash tells of the minute and the day. -/
theorem incrQuotaLua_run (hnowText : lua.tonumber nowText = some now)
    (hrpm : Counts rpmStarted rpm minuteEnd (db rpmKey)) (hminute : now < minuteEnd)
    (hminuteEnd : minuteEnd ≤ now + 120) (hrpmRange : Redis.InRange (rpm + 1))
    (htokens : Counts tokensStarted tokens dayEnd (db tokensKey)) (hday : now < dayEnd)
    (hdayEnd : dayEnd ≤ now + 172800) (htokensRange : Redis.InRange (tokens + delta))
    (hdelta : lua.Passes delta)
    (hhash : ∀ e, db hashKey = some e → ∃ fields, e.value = .hash fields)
    (hrt : rpmKey ≠ tokensKey) (hrh : rpmKey ≠ hashKey) (hth : tokensKey ≠ hashKey) :
    ∃ reply db', incrQuotaLua lua now rpmKey tokensKey hashKey nowText today (intText delta)
        "120" "172800" db = (.ok reply, db') ∧
      (∀ k, k ≠ rpmKey → k ≠ tokensKey → k ≠ hashKey → db' k = db k) ∧
      Counts True (rpm + 1) minuteEnd (db' rpmKey) ∧
      Counts True (tokens + delta) dayEnd (db' tokensKey) ∧
      ∃ fields d, db' hashKey = some ⟨.hash fields, d⟩ ∧
        fields.lookup "window_start" = some (lua.tostring (⌊now / 60⌋ * 60)) ∧
        fields.lookup "tokens_day" = some today := by
  -- the minute
  obtain ⟨db₁, e₁, hincr, hexpire, hcount⟩ := count_window lua hrpm hminute hrpmRange
    (by decide : (0 : ℤ) < 120) (by decide) (by exact_mod_cast hminuteEnd)
    (lua.ofInt (rpm + 1) = 1) (by
      intro hs
      rw [(hrpm.2 hs).2, zero_add, lua.ofInt_exact 1 (by decide)]
      exact decide_eq_true (by norm_num))
  -- the day
  have htokens' : Counts tokensStarted tokens dayEnd
      (Function.update db rpmKey (some e₁) tokensKey) := by
    rw [Function.update_of_ne hrt.symm]
    exact htokens
  obtain ⟨db₂, e₂, hincrBy, hexpire₂, hcount₂⟩ := count_window lua htokens' hday
    htokensRange (by decide : (0 : ℤ) < 172800) (by decide) (by exact_mod_cast hdayEnd)
    (some (lua.ofInt (tokens + delta)) = lua.tonumber (intText delta)) (by
      intro hs
      rw [(htokens.2 hs).2, zero_add, lua.tonumber_intText]
      exact decide_eq_true rfl)
  -- the hash
  obtain ⟨db₃, hdb₃⟩ : ∃ db₃, db₃ = Function.update (Function.update db rpmKey (some e₁)) tokensKey
    (some e₂) := ⟨_, rfl⟩
  rw [← hdb₃] at hexpire₂
  have hhash₃ : db₃ hashKey = db hashKey := by
    rw [hdb₃, Function.update_of_ne hth.symm, Function.update_of_ne hrh.symm]
  obtain ⟨n, fields, d, hhset, hd, hstart, htoday⟩ := @hset_summary now hashKey db₃
    (fun e he => hhash e (hhash₃ ▸ he)) (lua.tostring (now - (now - ⌊now / 60⌋ * 60)))
    (lua.tostring (lua.ofInt (rpm + 1))) (lua.tostring (lua.ofInt (tokens + delta))) today
  have hmax : max (120 : ℚ) 172800 = ((172800 : ℤ) : ℚ) := by norm_num
  have hexpire₃ := @expireIf_update lua now hashKey db₃ true (.hash fields) d hd 172800
    (by decide) (by decide)
  rw [if_pos rfl] at hexpire₃
  refine ⟨(LuaNumbers.reply (lua.ofInt (rpm + 1)), LuaNumbers.reply (lua.ofInt (tokens + delta))),
    Function.update db₃ hashKey (some ⟨.hash fields, some (now + (172800 : ℤ))⟩), ?_, ?_, ?_, ?_,
    fields, _, Function.update_self _ _ _, ?_, htoday⟩
  · have hrequest : (lua.ofInt <$> Redis.incr now rpmKey) db =
        (.ok (lua.ofInt (rpm + 1)), db₁) := by
      apply Redis.Command.map_ok
      rw [Redis.incr, ← intText_one]
      exact hincr
    have hargument : numberArgument lua (lua.tonumber (intText delta))
        (Function.update db rpmKey (some e₁)) =
          (.ok (intText delta), Function.update db rpmKey (some e₁)) := by
      rw [lua.tonumber_intText, numberArgument, hdelta, Redis.Command.pure_apply]
    unfold incrQuotaLua
    simp only [tonumber_rpmTtl, tonumber_tokensTtl, hnowText, LuaNumbers.number]
    refine (Redis.Command.bind_ok hrequest).trans ?_
    refine (Redis.Command.bind_ok (by exact_mod_cast hexpire)).trans ?_
    refine (Redis.Command.bind_ok hargument).trans ?_
    refine (Redis.Command.bind_ok (Redis.Command.map_ok hincrBy)).trans ?_
    refine (Redis.Command.bind_ok (by exact_mod_cast hexpire₂)).trans ?_
    refine (Redis.Command.bind_ok (Redis.Command.pure_apply now db₃)).trans ?_
    refine (Redis.Command.bind_ok hhset).trans ?_
    refine (Redis.Command.bind_ok (Redis.Command.pure_apply _ _)).trans ?_
    refine (Redis.Command.bind_ok (Redis.Command.pure_apply _ _)).trans ?_
    rw [hmax]
    refine (Redis.Command.bind_ok hexpire₃).trans ?_
    rw [Redis.Command.pure_apply]
  · intro k hk₁ hk₂ hk₃
    rw [Function.update_of_ne hk₃, hdb₃, Function.update_of_ne hk₂, Function.update_of_ne hk₁]
  · rw [Function.update_of_ne hrh, hdb₃, Function.update_of_ne hrt, Function.update_self]
    exact hcount
  · rw [Function.update_of_ne hth, hdb₃, Function.update_self]
    exact hcount₂
  · rw [hstart, sub_sub_cancel]

end Script

/-! ## The tally -/

section Tally

variable (lua : LuaNumbers)

/-- The database counts what the log of the increments says. -/
structure Tallied (log : List Increment) (db : Database) : Prop where
  rpm : ∀ team bucket, ':' ∉ team.toList →
    Counts (∃ i ∈ log, i.inMinute team bucket) (requestsIn log team bucket)
      ((bucket + 60 : ℤ) : ℚ) (db (rpmKey team bucket))
  tokens : ∀ team day, ':' ∉ team.toList → IsDay day →
    Counts (∃ i ∈ log, i.onDay team day) (tokensIn log team day)
      (((day + 1) * 86400 : ℤ) : ℚ) (db (tokensKey team (dateText day)))
  /-- a hash is about an increment that was made -/
  hash : ∀ team e, ':' ∉ team.toList → db (hashKey team) = some e →
    ∃ fields, e.value = .hash fields ∧ ∃ i ∈ log, i.team = team ∧
      fields.lookup "window_start" = some (lua.tostring i.time.minuteBucket) ∧
      fields.lookup "tokens_day" = some i.time.today

/-- There are no keys of teams. -/
def NoTenantKeys (db : Database) : Prop := ∀ k : QuotaKey, db k.text = none

variable {lua}

theorem tallied_nil {db : Database} (h : NoTenantKeys db) : Tallied lua [] db where
  rpm team bucket _ := by
    refine ⟨fun hstarted => ?_, fun _ => ⟨h (.rpm team bucket), rfl⟩⟩
    obtain ⟨i, hi, -⟩ := hstarted
    cases hi
  tokens team day _ _ := by
    refine ⟨fun hstarted => ?_, fun _ => ⟨h (.tokens team day), rfl⟩⟩
    obtain ⟨i, hi, -⟩ := hstarted
    cases hi
  hash team e _ he := by
    rw [show db (hashKey team) = none from h (.hash team)] at he
    cases he

theorem minuteStart_eq (t : Reading) :
    ((⌊t.seconds / 60⌋ : ℚ) * 60) = (t.minuteBucket : ℚ) := by
  have hdiv : ⌊t.seconds / 60⌋ = ⌊t.seconds⌋ / 60 := by
    exact_mod_cast Int.floor_div_natCast t.seconds 60
  have hbucket : t.minuteBucket = ⌊t.seconds⌋ / 60 * 60 := by
    unfold Reading.minuteBucket Reading.whole
    omega
  rw [hdiv, hbucket]
  push_cast
  ring

/-- A window that the new increment does not fall into counts as before. -/
theorem counts_congr {started started' : Prop} {n n' : ℤ} {windowEnd : ℚ}
    {e e' : Option Redis.Entry} (h : Counts started n windowEnd e) (hs : started' ↔ started)
    (hn : n' = n) (he : e' = e) : Counts started' n' windowEnd e' := by
  subst hn
  subst he
  exact ⟨fun h' => h.1 (hs.mp h'), fun h' => h.2 (fun hs' => h' (hs.mpr hs'))⟩

theorem exists_mem_concat_iff {α : Type} {p : α → Bool} {l : List α} {a : α} (ha : ¬ p a) :
    (∃ x ∈ l ++ [a], p x) ↔ ∃ x ∈ l, p x := by
  constructor
  · rintro ⟨x, hx, hpx⟩
    rcases List.mem_append.mp hx with hx | hx
    · exact ⟨x, hx, hpx⟩
    · rw [List.mem_singleton.mp hx] at hpx
      exact absurd hpx ha
  · rintro ⟨x, hx, hpx⟩
    exact ⟨x, List.mem_append_left _ hx, hpx⟩

/-- **An increment keeps the tally.** -/
theorem tallied_incr {py : PyRuntime} (hfloat : ∀ q, lua.tonumber (py.reprFloat q) = some q)
    {log : List Increment} {db : Database} (h : Tallied lua log db) {i : Increment}
    (hteam : ':' ∉ i.team.toList) (hpasses : lua.Passes (max i.tokens 0))
    (hrequests : requestsIn log i.team i.time.minuteBucket + 1 < 2 ^ 63)
    (htokens : tokensIn log i.team i.time.day + max i.tokens 0 < 2 ^ 63) :
    ∃ reply db', incrQuotaLua lua i.time.seconds (rpmKey i.team i.time.minuteBucket)
        (tokensKey i.team i.time.today) (hashKey i.team) (py.reprFloat i.time.seconds)
        i.time.today (intText (max i.tokens 0)) "120" "172800" db = (.ok reply, db') ∧
      Tallied lua (log ++ [i]) db' ∧ ∀ team, db' (costKey team) = db (costKey team) := by
  have hday := i.time.isDay
  have hrk : (QuotaKey.rpm i.team i.time.minuteBucket).Proper := hteam
  have htk : (QuotaKey.tokens i.team i.time.day).Proper := ⟨hteam, hday⟩
  have hhk : (QuotaKey.hash i.team).Proper := hteam
  have hne : ∀ {k k' : QuotaKey}, k.Proper → k'.Proper → k ≠ k' → k.text ≠ k'.text :=
    fun hk hk' hkk htext => hkk (QuotaKey.text_inj hk hk' htext)
  have hnonneg := requestsIn_nonneg log i.team i.time.minuteBucket
  have hsum := tokensIn_nonneg log i.team i.time.day
  obtain ⟨reply, db', hrun, hframe, hrpm', htokens', fields, d, hhash', hstart, htoday⟩ :=
    @incrQuotaLua_run lua i.time.seconds db (rpmKey i.team i.time.minuteBucket)
      (tokensKey i.team i.time.today) (hashKey i.team) (py.reprFloat i.time.seconds)
      i.time.today _ _ _ _ (max i.tokens 0) _ _ (hfloat i.time.seconds)
      (h.rpm i.team i.time.minuteBucket hteam) i.time.lt_minuteEnd
      (by
        have := i.time.minuteBucket_le
        push_cast
        linarith)
      ⟨by omega, hrequests⟩ (h.tokens i.team i.time.day hteam hday) i.time.lt_dayEnd
      (by
        have := i.time.dayStart_le
        push_cast at this ⊢
        linarith)
      ⟨by omega, htokens⟩ hpasses
      (fun e he => (h.hash i.team e hteam he).imp (fun fields hfields => hfields.1))
      (hne hrk htk (by simp)) (hne hrk hhk (by simp)) (hne htk hhk (by simp))
  -- the keys that the script leaves alone
  have hother : ∀ k : QuotaKey, k.Proper → k ≠ .rpm i.team i.time.minuteBucket →
      k ≠ .tokens i.team i.time.day → k ≠ .hash i.team → db' k.text = db k.text :=
    fun k hk h₁ h₂ h₃ => hframe _ (hne hk hrk h₁) (hne hk htk h₂) (hne hk hhk h₃)
  refine ⟨reply, db', hrun, ⟨?_, ?_, ?_⟩, ?_⟩
  · intro team bucket hproper
    by_cases hin : i.inMinute team bucket
    · obtain ⟨rfl, rfl⟩ := of_decide_eq_true hin
      refine counts_congr hrpm' ⟨fun _ => trivial, fun _ => ⟨i, by simp, hin⟩⟩ ?_ rfl
      rw [requestsIn_append, requestsIn_singleton, if_pos hin]
    · refine counts_congr (h.rpm team bucket hproper) ?_ ?_ ?_
      · exact exists_mem_concat_iff hin
      · rw [requestsIn_append, requestsIn_singleton, if_neg hin, add_zero]
      · apply hother (.rpm team bucket) hproper
        · intro hk
          obtain ⟨rfl, rfl⟩ := QuotaKey.rpm.inj hk
          exact hin (decide_eq_true ⟨rfl, rfl⟩)
        · exact fun hk => QuotaKey.noConfusion hk
        · exact fun hk => QuotaKey.noConfusion hk
  · intro team day hproper hisDay
    by_cases hin : i.onDay team day
    · obtain ⟨rfl, rfl⟩ := of_decide_eq_true hin
      refine counts_congr htokens' ⟨fun _ => trivial, fun _ => ⟨i, by simp, hin⟩⟩ ?_ rfl
      rw [tokensIn_append, tokensIn_singleton, if_pos hin]
    · refine counts_congr (h.tokens team day hproper hisDay) ?_ ?_ ?_
      · exact exists_mem_concat_iff hin
      · rw [tokensIn_append, tokensIn_singleton, if_neg hin, add_zero]
      · apply hother (.tokens team day) ⟨hproper, hisDay⟩
        · exact fun hk => QuotaKey.noConfusion hk
        · intro hk
          obtain ⟨rfl, rfl⟩ := QuotaKey.tokens.inj hk
          exact hin (decide_eq_true ⟨rfl, rfl⟩)
        · exact fun hk => QuotaKey.noConfusion hk
  · intro team e hproper he
    by_cases hteam' : team = i.team
    · subst hteam'
      rw [hhash'] at he
      refine ⟨fields, by rw [← Option.some.inj he], i, by simp, rfl, ?_, htoday⟩
      rw [hstart, minuteStart_eq]
    · have hsame : db' (hashKey team) = db (hashKey team) :=
        hother (.hash team) hproper (fun hk => QuotaKey.noConfusion hk)
          (fun hk => QuotaKey.noConfusion hk) (fun hk => hteam' (QuotaKey.hash.inj hk))
      rw [hsame] at he
      obtain ⟨fields', hvalue, j, hj, hrest⟩ := h.hash team e hproper he
      exact ⟨fields', hvalue, j, List.mem_append_left _ hj, hrest⟩
  · intro team
    exact hframe _ (Ne.symm (QuotaKey.text_ne_costKey (.rpm _ _) team))
      (Ne.symm (QuotaKey.text_ne_costKey (.tokens _ _) team))
      (Ne.symm (QuotaKey.text_ne_costKey (.hash _) team))

end Tally

/-! ## Reading -/

/-- Texts of numbers are read back: by `int` and `str.isdigit`, and by the scripts. -/
structure TextsReadBack (py : PyRuntime) (isDigitText : String → Bool) (lua : LuaNumbers) :
    Prop where
  int : ∀ n, py.intOfStr (intText n) = some n
  isDigit : ∀ s, IsAscii s → isDigitText s = (s.toList ≠ [] && s.toList.all Char.isDigit)
  float : ∀ q, lua.tonumber (py.reprFloat q) = some q

section Reads

variable {py : PyRuntime} {isDigitText : String → Bool} {lua : LuaNumbers}

/-- The costs of the month are texts that the reader can read. -/
def CostsReadable (py : PyRuntime) (isDigitText : String → Bool) (db : Database) : Prop :=
  ∀ team e, db (costKey team) = some e → ∃ s cost, e.value = .text s ∧
    ∀ db, monthCost py isDigitText (some s) db = (.ok cost, db)

theorem intText_toList {n : ℤ} (h : 0 ≤ n) : (intText n).toList = Nat.toDigits 10 n.natAbs := by
  rw [intText, String.toList_ofList, Json.printInt, if_neg (by omega)]

theorem dropWhile_eq_self {α : Type} {p : α → Bool} {l : List α} (h : ∀ c ∈ l, p c = false) :
    l.dropWhile p = l := by
  cases l with
  | nil => rfl
  | cons c l =>
    rw [List.dropWhile_cons, h c List.mem_cons_self]
    exact if_neg Bool.false_ne_true

theorem asInt_intText (texts : TextsReadBack py isDigitText lua) {n : ℤ} (h : 0 ≤ n)
    (db : Database) : asInt py isDigitText (some (intText n)) db = (.ok (some n), db) := by
  have hdigits : ∀ c ∈ Nat.toDigits 10 n.natAbs, c.isDigit = true :=
    fun c hc => Json.isDigit_of_mem_toDigits hc
  have hbounds : ∀ c ∈ Nat.toDigits 10 n.natAbs, 48 ≤ c.toNat ∧ c.toNat ≤ 57 :=
    fun c hc => Timestamp.digit_bounds (hdigits c hc)
  have hspace : ∀ c ∈ Nat.toDigits 10 n.natAbs, isSpace c = false := by
    intro c hc
    have := hbounds c hc
    exact isSpace_eq_false (by omega) (by omega)
  have hminus : ∀ c ∈ Nat.toDigits 10 n.natAbs, decide (c = '-') = false := by
    intro c hc
    apply decide_eq_false
    rintro rfl
    exact absurd (hbounds '-' hc) (by decide)
  have hplain : String.ofList ((strip (intText n)).toList.dropWhile (· = '-')) = intText n := by
    rw [strip, String.toList_ofList, intText_toList h, stripChars, dropWhile_eq_self hspace,
      List.rdropWhile, dropWhile_eq_self (fun c hc => hspace c (List.mem_reverse.mp hc)),
      List.reverse_reverse, dropWhile_eq_self hminus, ← intText_toList h, String.ofList_toList]
  have hascii : IsAscii (intText n) := by
    intro c hc
    rw [intText_toList h] at hc
    have := hbounds c hc
    omega
  have hall : isDigitText (intText n) = true := by
    rw [texts.isDigit _ hascii, intText_toList h, Bool.and_eq_true, decide_eq_true_eq]
    exact ⟨Nat.toDigits_ne_nil, List.all_eq_true.mpr hdigits⟩
  rw [asInt, hplain, if_pos hall, texts.int]
  rfl

theorem get_cost {db : Database} (hcost : CostsReadable py isDigitText db) (team : String)
    (now : ℚ) : ∃ cost, (Redis.get now (costKey team) >>= monthCost py isDigitText) db =
      (.ok cost, db) := by
  rcases @Redis.live_eq_none_or db now (costKey team) with hnone | hsame
  · exact ⟨0, Redis.Command.bind_ok (Redis.get_none hnone)⟩
  · cases he : db (costKey team) with
    | none =>
      rw [he] at hsame
      exact ⟨0, Redis.Command.bind_ok (Redis.get_none hsame)⟩
    | some e =>
      obtain ⟨s, cost, hvalue, hread⟩ := hcost team e he
      have hlive : db.live now (costKey team) = some ⟨.text s, e.deadline⟩ := by
        rw [hsame, he, ← hvalue]
      exact ⟨cost, (Redis.Command.bind_ok (Redis.get_text hlive)).trans (hread db)⟩

/-- The hash tells of no request in the minute and of no token of the day. -/
theorem readQuotaLua_past (texts : TextsReadBack py isDigitText lua) {log : List Increment}
    {db : Database} (h : Tallied lua log db) {team : String} (hteam : ':' ∉ team.toList)
    {t : Reading} (hpast : ∀ i ∈ log, i.time.seconds ≤ t.seconds)
    (hday : ¬ ∃ i ∈ log, i.onDay team t.day) :
    readQuotaLua lua t.seconds (hashKey team) (py.reprFloat t.seconds) t.today db =
      (.ok (0, 0), db) := by
  have hempty : ∀ db : Database, db.live t.seconds (hashKey team) = none →
      readQuotaLua lua t.seconds (hashKey team) (py.reprFloat t.seconds) t.today db =
        (.ok (0, 0), db) :=
    fun db hnone => Redis.Command.bind_ok (Redis.hgetall_none hnone)
  rcases @Redis.live_eq_none_or db t.seconds (hashKey team) with hnone | hsame
  · exact hempty db hnone
  · cases he : db (hashKey team) with
    | none => exact hempty db (hsame.trans he)
    | some e =>
      obtain ⟨fields, hvalue, i, hi, hiteam, hstart, htoday⟩ := h.hash team e hteam he
      have hlive : db.live t.seconds (hashKey team) = some ⟨.hash fields, e.deadline⟩ := by
        rw [hsame, he, ← hvalue]
      -- the increment was made on another day
      have hother : i.time.day ≠ t.day := by
        intro hsameDay
        exact hday ⟨i, hi, decide_eq_true ⟨hiteam, hsameDay⟩⟩
      have htext : i.time.today ≠ t.today :=
        fun htext => hother (dateText_inj i.time.isDay t.isDay htext)
      have hwindow : lua.tonumber (lua.tostring i.time.minuteBucket) =
          some (i.time.minuteBucket : ℚ) := by
        have hsmall : i.time.minuteBucket.natAbs < 10 ^ 14 := by
          have h0 := i.time.whole_nonneg
          have h1 := i.time.whole_lt
          unfold Reading.minuteBucket
          omega
        rw [lua.tostring_exact _ hsmall, lua.tonumber_intText, lua.ofInt_exact _ (by omega)]
      have hpassed := Reading.minuteEnd_le (hpast i hi) hother
      push_cast at hpassed
      have hfields : fields ≠ [] := by
        rintro rfl
        cases hstart
      refine (Redis.Command.bind_ok (Redis.hgetall_hash hlive)).trans ?_
      rw [if_neg hfields]
      simp only [hstart, htoday, Option.getD_some, hwindow, texts.float, LuaNumbers.number]
      refine (Redis.Command.bind_ok (Redis.Command.pure_apply _ _)).trans ?_
      rw [if_pos (by linarith), if_pos htext]
      rfl

/-- **A read finds what the log of the increments says.** -/
theorem readCounters_tallied (texts : TextsReadBack py isDigitText lua) {log : List Increment}
    {db : Database} (h : Tallied lua log db) (hcost : CostsReadable py isDigitText db)
    {team : String} (hteam : ':' ∉ team.toList) {t : Reading}
    (hpast : ∀ i ∈ log, i.time.seconds ≤ t.seconds) :
    ∃ cost, readCounters py isDigitText lua team t db =
      (.ok (requestsIn log team t.minuteBucket, tokensIn log team t.day, cost), db) := by
  have hrpm := h.rpm team t.minuteBucket hteam
  have htokens := h.tokens team t.day hteam t.isDay
  obtain ⟨cost, hreadCost⟩ := get_cost hcost team t.seconds
  refine ⟨cost, ?_⟩
  by_cases hday : ∃ i ∈ log, i.onDay team t.day
  · -- the key of the day is there, and so the hash is not read
    have hgetTokens : (Redis.get t.seconds (tokensKey team t.today) >>= asInt py isDigitText) db =
        (.ok (some (tokensIn log team t.day)), db) :=
      (Redis.Command.bind_ok (Redis.get_started htokens t.lt_dayEnd hday)).trans
        (asInt_intText texts (tokensIn_nonneg log team t.day) db)
    by_cases hminute : ∃ i ∈ log, i.inMinute team t.minuteBucket
    · have hgetRpm : (Redis.get t.seconds (rpmKey team t.minuteBucket) >>= asInt py isDigitText)
          db = (.ok (some (requestsIn log team t.minuteBucket)), db) :=
        (Redis.Command.bind_ok (Redis.get_started hrpm t.lt_minuteEnd hminute)).trans
          (asInt_intText texts (requestsIn_nonneg log team t.minuteBucket) db)
      refine (Redis.Command.bind_ok hgetRpm).trans ?_
      refine (Redis.Command.bind_ok hgetTokens).trans ?_
      refine (Redis.Command.bind_ok (Redis.Command.pure_apply _ _)).trans ?_
      exact Redis.Command.bind_ok hreadCost
    · have hgetRpm : (Redis.get t.seconds (rpmKey team t.minuteBucket) >>= asInt py isDigitText)
          db = (.ok none, db) :=
        Redis.Command.bind_ok (Redis.get_not_started hrpm hminute)
      refine (Redis.Command.bind_ok hgetRpm).trans ?_
      refine (Redis.Command.bind_ok hgetTokens).trans ?_
      refine (Redis.Command.bind_ok (Redis.Command.pure_apply _ _)).trans ?_
      rw [(hrpm.2 hminute).2]
      exact Redis.Command.bind_ok hreadCost
  · -- no increment on the day, so none in the minute
    have hminute : ¬ ∃ i ∈ log, i.inMinute team t.minuteBucket := by
      rintro ⟨i, hi, hin⟩
      obtain ⟨hiteam, hbucket⟩ := of_decide_eq_true hin
      exact hday ⟨i, hi, decide_eq_true ⟨hiteam, Reading.day_of_minuteBucket hbucket⟩⟩
    have hgetRpm : (Redis.get t.seconds (rpmKey team t.minuteBucket) >>= asInt py isDigitText) db =
        (.ok none, db) :=
      Redis.Command.bind_ok (Redis.get_not_started hrpm hminute)
    have hgetTokens : (Redis.get t.seconds (tokensKey team t.today) >>= asInt py isDigitText) db =
        (.ok none, db) :=
      Redis.Command.bind_ok (Redis.get_not_started htokens hday)
    refine (Redis.Command.bind_ok hgetRpm).trans ?_
    refine (Redis.Command.bind_ok hgetTokens).trans ?_
    refine (Redis.Command.bind_ok (readQuotaLua_past texts h hteam hpast hday)).trans ?_
    rw [(hrpm.2 hminute).2, (htokens.2 hday).2]
    exact Redis.Command.bind_ok hreadCost

/-- The snapshot of a read. -/
theorem readQuotaState_tallied (texts : TextsReadBack py isDigitText lua) {log : List Increment}
    {db : Database} (h : Tallied lua log db) (hcost : CostsReadable py isDigitText db)
    {team : String} (hteam : ':' ∉ team.toList) {t : Reading}
    (hpast : ∀ i ∈ log, i.time.seconds ≤ t.seconds) {redis : QuotaRedis}
    (hserved : getQuotaRedisUrl redis ≠ none ∧ redis.reachable = true) :
    ∃ cost, readQuotaState py isDigitText lua redis team t db =
      (some { team := team, requestsLastMinute := requestsIn log team t.minuteBucket,
              tokensToday := tokensIn log team t.day, monthToDateCostUsd := cost,
              source := .redis }, db) := by
  obtain ⟨cost, hrun⟩ := readCounters_tallied texts h hcost hteam hpast
  refine ⟨cost, ?_⟩
  rw [readQuotaState, if_neg hserved.1, if_pos hserved.2, hrun]

end Reads

/-! ## Sequences of calls -/

section Runs

variable (py : PyRuntime) (isDigitText : String → Bool) (lua : LuaNumbers)

/-- The team of a call. -/
def QuotaCall.team : QuotaCall → String
  | .incr team _ => team
  | .read team => team

/-- A sequence of calls at nondecreasing times, of replicas that share the server, for teams
without a colon in their name; before it no team has a key. -/
structure QuotaRun (events : List QuotaEvent) (db : Database) : Prop where
  ordered : events.Pairwise (fun a b => a.time.seconds ≤ b.time.seconds)
  names : ∀ e ∈ events, ':' ∉ e.call.team.toList
  served : ∀ e ∈ events, getQuotaRedisUrl e.replica ≠ none ∧ e.replica.reachable = true
  fresh : NoTenantKeys db
  costs : CostsReadable py isDigitText db

/-- Every read returns the requests of its minute and the tokens of its day. -/
def ReadsExact (events : List QuotaEvent) (db : Database) : Prop :=
  ∀ before e after, events = before ++ e :: after → ∀ team, e.call = .read team →
    ∃ snapshot, (e.serve py isDigitText lua (serveAll py isDigitText lua before db)).1 =
        some snapshot ∧ snapshot.source = .redis ∧ snapshot.unavailable = false ∧
      snapshot.requestsLastMinute = requestsIn (increments before) team e.time.minuteBucket ∧
      snapshot.tokensToday = tokensIn (increments before) team e.time.day

/-- The increments that the server can count: the scripts pass on their tokens, and the counters
stay below 64 bits. -/
structure Countable (log : List Increment) : Prop where
  passes : ∀ i ∈ log, lua.Passes (max i.tokens 0)
  requests : ∀ team bucket, requestsIn log team bucket < 2 ^ 63
  tokens : ∀ team day, tokensIn log team day < 2 ^ 63

variable {py isDigitText lua}

theorem Countable.of_append {log more : List Increment} (h : Countable lua (log ++ more)) :
    Countable lua log where
  passes i hi := h.passes i (List.mem_append_left _ hi)
  requests team bucket := by
    have hall := h.requests team bucket
    have hmore := requestsIn_nonneg more team bucket
    rw [requestsIn_append] at hall
    omega
  tokens team day := by
    have hall := h.tokens team day
    have hmore := tokensIn_nonneg more team day
    rw [tokensIn_append] at hall
    omega

/-- One call keeps the tally. -/
theorem tallied_serve (texts : TextsReadBack py isDigitText lua) {log : List Increment}
    {db : Database} (h : Tallied lua log db) (hcost : CostsReadable py isDigitText db)
    {e : QuotaEvent} (hname : ':' ∉ e.call.team.toList)
    (hserved : getQuotaRedisUrl e.replica ≠ none ∧ e.replica.reachable = true)
    (hpast : ∀ i ∈ log, i.time.seconds ≤ e.time.seconds)
    (hcount : Countable lua (log ++ increments [e])) :
    Tallied lua (log ++ increments [e]) (e.serve py isDigitText lua db).2 ∧
      CostsReadable py isDigitText (e.serve py isDigitText lua db).2 := by
  obtain ⟨call, replica, t⟩ := e
  cases call with
  | incr team tokens =>
    obtain ⟨i, hi⟩ : ∃ i : Increment, i = ⟨team, tokens, t⟩ := ⟨_, rfl⟩
    have hlog : increments [⟨.incr team tokens, replica, t⟩] = [i] := by rw [hi]; rfl
    rw [hlog] at hcount ⊢
    have hrequests := hcount.requests team t.minuteBucket
    have htokens := hcount.tokens team t.day
    rw [requestsIn_append, requestsIn_singleton, if_pos (by simp [hi, Increment.inMinute])]
      at hrequests
    rw [tokensIn_append, tokensIn_singleton, if_pos (by simp [hi, Increment.onDay])] at htokens
    obtain ⟨reply, db', hrun, htallied, hcosts⟩ := @tallied_incr lua py texts.float log db h i
      (by rw [hi]; exact hname) (hcount.passes i (by simp)) (by rw [hi]; exact hrequests)
      (by rw [hi] at htokens ⊢; exact htokens)
    rw [hi] at hrun
    have hserve : (QuotaEvent.serve py isDigitText lua ⟨.incr team tokens, replica, t⟩ db).2 =
        db' := by
      simp only [QuotaEvent.serve, incrQuotaCounters, if_neg hserved.1, if_pos hserved.2, hrun]
    rw [hserve]
    refine ⟨htallied, ?_⟩
    intro name e he
    rw [hcosts] at he
    exact hcost name e he
  | read team =>
    have hlog : increments [⟨.read team, replica, t⟩] = [] := rfl
    obtain ⟨cost, hread⟩ := readQuotaState_tallied texts h hcost hname hpast hserved
    have hserve : (QuotaEvent.serve py isDigitText lua ⟨.read team, replica, t⟩ db).2 = db :=
      congrArg Prod.snd hread
    rw [hserve, hlog, List.append_nil]
    exact ⟨h, hcost⟩

theorem increments_append (events more : List QuotaEvent) :
    increments (events ++ more) = increments events ++ increments more :=
  List.filterMap_append

/-- An increment of the log is one of the calls. -/
theorem time_of_mem_increments {events : List QuotaEvent} {i : Increment}
    (h : i ∈ increments events) : ∃ e ∈ events, e.time = i.time := by
  obtain ⟨e, he, hi⟩ := List.mem_filterMap.mp h
  refine ⟨e, he, ?_⟩
  cases hcall : e.call with
  | incr team tokens =>
    rw [hcall] at hi
    rw [← Option.some.inj hi]
  | read team =>
    rw [hcall] at hi
    cases hi

/-- A sequence of calls keeps the tally. -/
theorem tallied_serveAll (texts : TextsReadBack py isDigitText lua) {db : Database}
    (events : List QuotaEvent) (h : QuotaRun py isDigitText events db)
    (hcount : Countable lua (increments events)) :
    Tallied lua (increments events) (serveAll py isDigitText lua events db) ∧
      CostsReadable py isDigitText (serveAll py isDigitText lua events db) := by
  induction events using List.reverseRecOn with
  | nil => exact ⟨tallied_nil h.fresh, h.costs⟩
  | append_singleton events e ih =>
    have hordered := List.pairwise_append.mp h.ordered
    have hcount' := hcount
    rw [increments_append] at hcount'
    obtain ⟨htallied, hcosts⟩ := ih
      { ordered := hordered.1
        names := fun e' he' => h.names e' (List.mem_append_left _ he')
        served := fun e' he' => h.served e' (List.mem_append_left _ he')
        fresh := h.fresh
        costs := h.costs } hcount'.of_append
    have hmem : e ∈ events ++ [e] := List.mem_append_right _ List.mem_cons_self
    rw [increments_append, serveAll, List.foldl_append]
    refine tallied_serve texts htallied hcosts (h.names e hmem) (h.served e hmem) ?_ hcount'
    intro i hi
    obtain ⟨e', he', htime⟩ := time_of_mem_increments hi
    rw [← htime]
    exact hordered.2.2 e' he' e List.mem_cons_self

/-- **Shared quota counters are exact**, as long as the scripts pass on the tokens and the
counters stay below 64 bits. -/
theorem counters_exact (texts : TextsReadBack py isDigitText lua) {events : List QuotaEvent}
    {db : Database} (h : QuotaRun py isDigitText events db)
    (hcount : Countable lua (increments events)) :
    ReadsExact py isDigitText lua events db := by
  intro before e after hevents team hcall
  subst hevents
  have hmem : e ∈ before ++ e :: after := List.mem_append_right _ List.mem_cons_self
  have hordered := List.pairwise_append.mp h.ordered
  rw [increments_append] at hcount
  obtain ⟨htallied, hcosts⟩ := tallied_serveAll texts before
    { ordered := hordered.1
      names := fun e' he' => h.names e' (List.mem_append_left _ he')
      served := fun e' he' => h.served e' (List.mem_append_left _ he')
      fresh := h.fresh
      costs := h.costs } hcount.of_append
  have hname := h.names e hmem
  rw [hcall] at hname
  obtain ⟨cost, hread⟩ := @readQuotaState_tallied py isDigitText lua texts _ _ htallied hcosts
    team hname e.time (by
      intro i hi
      obtain ⟨e', he', htime⟩ := time_of_mem_increments hi
      rw [← htime]
      exact hordered.2.2 e' he' e List.mem_cons_self) e.replica (h.served e hmem)
  have hserve : e.serve py isDigitText lua (serveAll py isDigitText lua before db) =
      readQuotaState py isDigitText lua e.replica team e.time
        (serveAll py isDigitText lua before db) := by
    rw [QuotaEvent.serve, hcall]
  exact ⟨_, (congrArg Prod.fst (hserve.trans hread)), rfl, rfl, rfl, rfl⟩

end Runs

/-! ## Two runs -/

/-- A runtime that reads the decimal texts of integers. -/
def decimalRuntime : PyRuntime := { PyRuntime.ascii with intOfStr := Redis.integerOf }

/-- `str.isdigit` of ASCII text. -/
def isAsciiDigits (s : String) : Bool := s.toList ≠ [] && s.toList.all Char.isDigit

theorem textsReadBack_decimal : TextsReadBack decimalRuntime isAsciiDigits Redis.doubles where
  int := Redis.integerOf_intText
  isDigit _ _ := rfl
  float := Redis.doubles_tonumber_render

/-- A replica that is configured. -/
def localReplica : QuotaRedis := { quotaRedisUrl := "redis://localhost:6379/0" }

/-- An instant of 14 November 2023. -/
def novemberNight : Reading := ⟨1700000000, by norm_num, by norm_num⟩

/-- The end of that day. -/
def midnight : Reading := ⟨1700006399, by norm_num, by norm_num⟩

/-- The day after. -/
def nextDay : Reading := ⟨1700006400, by norm_num, by norm_num⟩

theorem quotaRun_of_empty {events : List QuotaEvent}
    (ordered : events.Pairwise (fun a b => a.time.seconds ≤ b.time.seconds))
    (hcalls : ∀ e ∈ events, ':' ∉ e.call.team.toList ∧ e.replica = localReplica) :
    QuotaRun decimalRuntime isAsciiDigits events (fun _ => none) where
  ordered := ordered
  names e he := (hcalls e he).1
  served e he := by
    rw [(hcalls e he).2]
    decide +kernel
  fresh _ := rfl
  costs _ _ he := by cases he

/-- One increment by more tokens than a float can represent, and a read. -/
def largeIncrement : List QuotaEvent :=
  [⟨.incr "finance" (2 ^ 53 + 1), localReplica, novemberNight⟩,
    ⟨.read "finance", localReplica, novemberNight⟩]

/-- The read misses a token of the increment. -/
theorem largeIncrement_not_exact :
    QuotaRun decimalRuntime isAsciiDigits largeIncrement (fun _ => none) ∧
      ¬ ReadsExact decimalRuntime isAsciiDigits Redis.doubles largeIncrement (fun _ => none) := by
  refine ⟨quotaRun_of_empty (by simp [largeIncrement]) ?_, ?_⟩
  · simp only [largeIncrement, List.mem_cons, List.not_mem_nil, or_false, forall_eq_or_imp,
      forall_eq]
    exact ⟨⟨by decide, trivial⟩, by decide, trivial⟩
  · intro h
    obtain ⟨snapshot, hserve, -, -, -, htokens⟩ := h [⟨.incr "finance" (2 ^ 53 + 1), localReplica,
      novemberNight⟩] ⟨.read "finance", localReplica, novemberNight⟩ [] rfl "finance" rfl
    have hread : (QuotaEvent.serve decimalRuntime isAsciiDigits Redis.doubles
        ⟨.read "finance", localReplica, novemberNight⟩
        (serveAll decimalRuntime isAsciiDigits Redis.doubles
          [⟨.incr "finance" (2 ^ 53 + 1), localReplica, novemberNight⟩] (fun _ => none))).1.map
        QuotaStateSnapshot.tokensToday = some (2 ^ 53) := by decide +kernel
    rw [hserve, Option.map_some, htokens, Option.some.injEq] at hread
    exact absurd hread (by decide +kernel)

/-- Increments on two days, one of them without tokens, and reads between them. -/
def twoDays : List QuotaEvent :=
  [⟨.incr "finance" 0, localReplica, novemberNight⟩,
    ⟨.incr "finance" 7, localReplica, midnight⟩, ⟨.read "finance", localReplica, midnight⟩,
    ⟨.read "finance", localReplica, nextDay⟩, ⟨.incr "finance" (-2), localReplica, nextDay⟩,
    ⟨.read "finance", localReplica, nextDay⟩]

theorem counters_exact_twoDays :
    ReadsExact decimalRuntime isAsciiDigits Redis.doubles twoDays (fun _ => none) := by
  apply counters_exact textsReadBack_decimal
  · apply quotaRun_of_empty
    · simp only [twoDays, List.pairwise_cons, List.mem_cons, List.not_mem_nil, or_false,
        forall_eq_or_imp, forall_eq, novemberNight, midnight, nextDay]
      norm_num
    · simp only [twoDays, List.mem_cons, List.not_mem_nil, or_false, forall_eq_or_imp, forall_eq]
      decide +kernel
  · have hlog : increments twoDays = [⟨"finance", 0, novemberNight⟩, ⟨"finance", 7, midnight⟩,
        ⟨"finance", -2, nextDay⟩] := rfl
    rw [hlog]
    refine ⟨?_, ?_, ?_⟩
    · intro i hi
      apply Redis.LuaNumbers.passes_of_natAbs_le
      fin_cases hi <;> decide
    · intro team bucket
      have hle : requestsIn [⟨"finance", 0, novemberNight⟩, ⟨"finance", 7, midnight⟩,
        ⟨"finance", -2, nextDay⟩] team bucket ≤ 3 := by
        unfold requestsIn
        exact_mod_cast List.countP_le_length
      omega
    · intro team day
      unfold tokensIn
      simp only [List.filter_cons, List.filter_nil]
      split_ifs <;> decide

end ControlPlane
