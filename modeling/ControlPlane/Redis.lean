/-
# A key-value server whose keys expire

Texts and hashes under keys, each with a deadline after which the key is gone; counters that
are kept as decimal texts; scripts, which run several commands at one instant.  A command or a
script that fails keeps what it did before it failed.

The numbers of the scripting language are floats (`LuaNumbers`): an integer is a number of the
language when a float can represent it.
-/
import ControlPlane.Decimal
import ControlPlane.Json
import Mathlib.Data.Rat.Floor
import Mathlib.Logic.Function.Basic

namespace Redis

variable {α β : Type}

/-! ## Databases -/

/-- What a key can hold. -/
inductive Value where
  | text (s : String)
  | hash (fields : List (String × String))
  deriving DecidableEq, Repr

/-- A value, and the instant in seconds at which its key expires. -/
structure Entry where
  value : Value
  deadline : Option ℚ := none
  deriving DecidableEq, Repr

/-- What is stored under each key. -/
abbrev Database := String → Option Entry

/-- What is under a key at an instant. -/
def Database.live (db : Database) (now : ℚ) (key : String) : Option Entry :=
  (db key).filter (fun e => e.deadline.all (now < ·))

theorem live_eq_none {db : Database} {now : ℚ} {key : String} (h : db key = none) :
    db.live now key = none := by
  rw [Database.live, h, Option.filter_none]

/-- An entry is there until its deadline. -/
theorem live_eq_some {db : Database} {now : ℚ} {key : String} {e : Entry} (h : db key = some e)
    (hdeadline : ∀ d, e.deadline = some d → now < d) : db.live now key = some e := by
  rw [Database.live, h, Option.filter_some, if_pos]
  cases hd : e.deadline with
  | none => rfl
  | some d =>
    rw [Option.all_some, decide_eq_true_eq]
    exact hdeadline d hd

/-- What is there has not expired. -/
theorem lt_deadline {db : Database} {now : ℚ} {key : String} {e : Entry}
    (h : db.live now key = some e) {d : ℚ} (hd : e.deadline = some d) : now < d := by
  have hall : e.deadline.all (now < ·) = true := (Option.filter_eq_some_iff.mp h).2
  rw [hd, Option.all_some, decide_eq_true_eq] at hall
  exact hall

theorem live_eq_none_or {db : Database} {now : ℚ} {key : String} :
    db.live now key = none ∨ db.live now key = db key := by
  unfold Database.live
  cases db key with
  | none => exact Or.inl rfl
  | some e =>
    rw [Option.filter_some]
    split
    · exact Or.inr rfl
    · exact Or.inl rfl

/-- The decimal text of an integer. -/
def intText (n : ℤ) : String := String.ofList (Json.printInt n)

/-- The integer that a text is the decimal text of. -/
def integerOf (s : String) : Option ℤ :=
  let n := Json.readInt s.toList
  if s = intText n then some n else none

@[simp] theorem integerOf_intText (n : ℤ) : integerOf (intText n) = some n := by
  have hread : Json.readInt (intText n).toList = n := by
    rw [intText, String.toList_ofList, Json.readInt_printInt]
  simp only [integerOf, hread, if_true]

theorem intText_inj {m n : ℤ} (h : intText m = intText n) : m = n := by
  have hm := integerOf_intText m
  rw [h, integerOf_intText] at hm
  exact (Option.some.inj hm).symm

/-- The integers that a counter can hold. -/
def InRange (n : ℤ) : Prop := -2 ^ 63 ≤ n ∧ n < 2 ^ 63

instance (n : ℤ) : Decidable (InRange n) := instDecidableAnd

/-! ## Commands -/

/-- Why a command or a script fails. -/
inductive Failure where
  | wrongType
  | notInteger
  | overflow
  | script (message : String)
  | client (message : String)
  deriving DecidableEq, Repr

/-- A command, a script or a series of them, at one instant. -/
def Command (α : Type) := Database → Except Failure α × Database

namespace Command

instance : Monad Command where
  pure a := fun db => (.ok a, db)
  bind x f := fun db => match x db with
    | (.ok a, db') => f a db'
    | (.error e, db') => (.error e, db')

/-- End with a failure. -/
def fail (e : Failure) : Command α := fun db => (.error e, db)

@[simp] theorem pure_apply (a : α) (db : Database) : (pure a : Command α) db = (.ok a, db) := rfl

theorem bind_ok {x : Command α} {f : α → Command β} {db db' : Database} {a : α}
    (h : x db = (.ok a, db')) : (x >>= f) db = f a db' := by
  show (match x db with
    | (.ok a, db') => f a db'
    | (.error e, db') => (.error e, db')) = f a db'
  rw [h]

theorem map_ok {f : α → β} {x : Command α} {db db' : Database} {a : α}
    (h : x db = (.ok a, db')) : (f <$> x) db = (.ok (f a), db') := by
  show (x >>= fun a => pure (f a)) db = (.ok (f a), db')
  rw [bind_ok h, pure_apply]

end Command

section Commands

variable (now : ℚ) (key : String)

/-- `GET`. -/
def get : Command (Option String) := fun db => match db.live now key with
  | none => (.ok none, db)
  | some e => match e.value with
    | .text s => (.ok (some s), db)
    | .hash _ => (.error .wrongType, db)

/-- The count under a key; a missing key counts as 0. -/
def Database.counter (db : Database) : Except Failure ℤ := match db.live now key with
  | none => .ok 0
  | some e => match e.value with
    | .text s => match integerOf s with
      | some n => .ok n
      | none => .error .notInteger
    | .hash _ => .error .wrongType

/-- `INCRBY`: the key keeps its deadline. -/
def incrBy (increment : String) : Command ℤ := fun db =>
  match integerOf increment with
  | none => (.error .notInteger, db)
  | some d => match db.counter now key with
    | .error e => (.error e, db)
    | .ok n =>
      if InRange (n + d) then
        (.ok (n + d), Function.update db key (some
          { value := .text (intText (n + d)), deadline := (db.live now key).bind Entry.deadline }))
      else (.error .overflow, db)

/-- `INCR`. -/
def incr : Command ℤ := incrBy now key "1"

/-- `EXPIRE`: a time to live that has passed deletes the key. -/
def expire (seconds : String) : Command Bool := fun db =>
  match integerOf seconds with
  | none => (.error .notInteger, db)
  | some s => match db.live now key with
    | none => (.ok false, db)
    | some e =>
      (.ok true, Function.update db key
        (if s ≤ 0 then none else some { e with deadline := some (now + s) }))

/-- Set a field of a hash; the fields come in no particular order. -/
def setField (fields : List (String × String)) (name value : String) : List (String × String) :=
  (name, value) :: fields.filter (fun f => f.1 ≠ name)

/-- Set several fields, one after the other. -/
def setFields (fields new : List (String × String)) : List (String × String) :=
  new.foldl (fun acc f => setField acc f.1 f.2) fields

/-- `HSET`: the number of new fields. -/
def hset (new : List (String × String)) : Command ℕ := fun db =>
  let store (old : List (String × String)) (deadline : Option ℚ) :=
    ((.ok ((setFields old new).length - old.length) : Except Failure ℕ),
      Function.update db key (some { value := .hash (setFields old new), deadline := deadline }))
  match db.live now key with
  | none => store [] none
  | some e => match e.value with
    | .text _ => (.error .wrongType, db)
    | .hash old => store old e.deadline

/-- `HGETALL`. -/
def hgetall : Command (List (String × String)) := fun db => match db.live now key with
  | none => (.ok [], db)
  | some e => match e.value with
    | .text _ => (.error .wrongType, db)
    | .hash fields => (.ok fields, db)

end Commands

/-! ## What the commands do -/

section Rules

variable {now : ℚ} {key : String} {db : Database}

theorem get_none (h : db.live now key = none) : get now key db = (.ok none, db) := by
  simp only [get, h]

theorem get_text {s : String} {d : Option ℚ} (h : db.live now key = some ⟨.text s, d⟩) :
    get now key db = (.ok (some s), db) := by
  simp only [get, h]

theorem counter_none (h : db.live now key = none) : db.counter now key = .ok 0 := by
  simp only [Database.counter, h]

theorem counter_text {n : ℤ} {d : Option ℚ} (h : db.live now key = some ⟨.text (intText n), d⟩) :
    db.counter now key = .ok n := by
  simp only [Database.counter, h, integerOf_intText]

theorem incrBy_ok {n d : ℤ} (h : db.counter now key = .ok n) (hrange : InRange (n + d)) :
    incrBy now key (intText d) db = (.ok (n + d), Function.update db key (some
      { value := .text (intText (n + d))
        deadline := (db.live now key).bind Entry.deadline })) := by
  simp only [incrBy, integerOf_intText, h, if_pos hrange]

theorem expire_ok {e : Entry} {s : ℤ} (h : db.live now key = some e) (hs : 0 < s) :
    expire now key (intText s) db =
      (.ok true, Function.update db key (some { e with deadline := some (now + s) })) := by
  simp only [expire, integerOf_intText, h, if_neg (not_le.mpr hs)]

/-- A hash, or nothing, takes new fields. -/
theorem hset_ok {new : List (String × String)}
    (h : ∀ e, db.live now key = some e → ∃ fields, e.value = .hash fields) :
    ∃ n old d, hset now key new db = (.ok n, Function.update db key (some
        { value := .hash (setFields old new), deadline := d })) ∧ ∀ x, d = some x → now < x := by
  cases hlive : db.live now key with
  | none =>
    refine ⟨(setFields [] new).length - 0, [], none, ?_, fun x hx => (by cases hx)⟩
    simp only [hset, hlive, List.length_nil]
  | some e =>
    obtain ⟨fields, hfields⟩ := h e hlive
    refine ⟨(setFields fields new).length - fields.length, fields, e.deadline, ?_,
      fun x hx => lt_deadline hlive hx⟩
    simp only [hset, hlive, hfields]

theorem hgetall_none (h : db.live now key = none) : hgetall now key db = (.ok [], db) := by
  simp only [hgetall, h]

theorem hgetall_hash {fields : List (String × String)} {d : Option ℚ}
    (h : db.live now key = some ⟨.hash fields, d⟩) : hgetall now key db = (.ok fields, db) := by
  simp only [hgetall, h]

/-- The field that was set holds the value, and the others are as before. -/
theorem lookup_setField (fields : List (String × String)) (name value x : String) :
    (setField fields name value).lookup x = if x = name then some value else fields.lookup x := by
  unfold setField
  rw [List.lookup_cons]
  by_cases hx : x = name
  · simp only [hx, beq_self_eq_true, if_true]
  · have hbeq : (x == name) = false := beq_eq_false_iff_ne.mpr hx
    simp only [hbeq, hx, if_false]
    induction fields with
    | nil => rfl
    | cons f fields ih =>
      obtain ⟨k, v⟩ := f
      by_cases hk : k = name
      · have hxk : (x == k) = false := by rw [hk, hbeq]
        rw [List.filter_cons_of_neg (by simp [hk]), List.lookup_cons, hxk]
        exact ih
      · rw [List.filter_cons_of_pos (by simp [hk]), List.lookup_cons, List.lookup_cons]
        cases x == k with
        | true => rfl
        | false => exact ih

end Rules

/-! ## Counters of a window -/

/-- The key of a window counts to `n`, and does not expire before the window ends; before the
first count there is no key. -/
def Counts (started : Prop) (n : ℤ) (windowEnd : ℚ) (e : Option Entry) : Prop :=
  (started → ∃ d, e = some ⟨.text (intText n), d⟩ ∧ ∀ x, d = some x → windowEnd ≤ x) ∧
    (¬ started → e = none ∧ n = 0)

section Counters

variable {now windowEnd : ℚ} {key : String} {db : Database} {started : Prop} {n : ℤ}

theorem get_started (h : Counts started n windowEnd (db key)) (hnow : now < windowEnd)
    (hs : started) : get now key db = (.ok (some (intText n)), db) := by
  obtain ⟨d, he, hd⟩ := h.1 hs
  exact get_text (live_eq_some he (fun x hx => lt_of_lt_of_le hnow (hd x hx)))

theorem get_not_started (h : Counts started n windowEnd (db key)) (hs : ¬ started) :
    get now key db = (.ok none, db) :=
  get_none (live_eq_none (h.2 hs).1)

/-- Counting up within the window: the deadline stays. -/
theorem incrBy_counts (h : Counts started n windowEnd (db key)) (hnow : now < windowEnd) {d : ℤ}
    (hrange : InRange (n + d)) :
    ∃ deadline, incrBy now key (intText d) db = (.ok (n + d), Function.update db key (some
        { value := .text (intText (n + d)), deadline := deadline })) ∧
      (∀ x, deadline = some x → now < x) ∧ (started → ∀ x, deadline = some x → windowEnd ≤ x) := by
  by_cases hs : started
  · obtain ⟨deadline, he, hd⟩ := h.1 hs
    have hlive : db.live now key = some ⟨.text (intText n), deadline⟩ :=
      live_eq_some he (fun x hx => lt_of_lt_of_le hnow (hd x hx))
    refine ⟨deadline, ?_, fun x hx => lt_of_lt_of_le hnow (hd x hx), fun _ => hd⟩
    rw [incrBy_ok (counter_text hlive) hrange, hlive, Option.bind_some]
  · obtain ⟨he, rfl⟩ := h.2 hs
    have hlive : db.live now key = none := live_eq_none he
    refine ⟨none, ?_, fun x hx => (by cases hx), fun hs' => absurd hs' hs⟩
    rw [incrBy_ok (counter_none hlive) hrange, hlive, Option.bind_none]

/-- A new deadline for a key. -/
theorem expire_update {e : Entry} {s : ℤ} (hdeadline : ∀ x, e.deadline = some x → now < x)
    (hs : 0 < s) : expire now key (intText s) (Function.update db key (some e)) =
      (.ok true, Function.update db key (some { e with deadline := some (now + s) })) := by
  have hlive : Database.live (Function.update db key (some e)) now key = some e :=
    live_eq_some (Function.update_self key (some e) db) hdeadline
  rw [expire_ok hlive hs, Function.update_idem]

end Counters

/-! ## The numbers of scripts -/

/-- The numbers of the scripting language, and their texts.  Integers that a float can
represent are numbers of the language, and commands get them digit by digit. -/
structure LuaNumbers where
  /-- the float nearest to an integer -/
  ofInt : ℤ → ℚ
  /-- `tonumber` of a text -/
  tonumber : String → Option ℚ
  /-- `tostring` of a number -/
  tostring : ℚ → String
  /-- the text of a number that is the argument of a command -/
  argument : ℚ → String
  tonumber_intText : ∀ n, tonumber (intText n) = some (ofInt n)
  ofInt_exact : ∀ n : ℤ, n.natAbs ≤ 2 ^ 53 → ofInt n = n
  argument_exact : ∀ n : ℤ, n.natAbs ≤ 2 ^ 53 → argument n = intText n
  tostring_exact : ∀ n : ℤ, n.natAbs < 10 ^ 14 → tostring n = intText n

namespace LuaNumbers

variable (lua : LuaNumbers)

/-- An integer that a script passes on digit by digit. -/
def Passes (n : ℤ) : Prop := lua.argument (lua.ofInt n) = intText n

theorem passes_of_natAbs_le {n : ℤ} (h : n.natAbs ≤ 2 ^ 53) : lua.Passes n := by
  rw [Passes, lua.ofInt_exact n h, lua.argument_exact n h]

/-- A number, where `nil` is an error. -/
def number : Option ℚ → Command ℚ
  | some q => pure q
  | none => .fail (.script "attempt to perform arithmetic on a nil value")

/-- The integer of a number that a script returns. -/
def reply (q : ℚ) : ℤ := q.num.tdiv q.den

end LuaNumbers

/-! ## Doubles -/

/-- The float with 53 bits that is nearest to a natural number, ties to even. -/
def nearestDouble (m : ℕ) : ℕ :=
  let unit := 2 ^ (Nat.log2 m - 52)
  let below := m / unit
  let rest := m % unit
  (if 2 * rest < unit then below
    else if unit < 2 * rest then below + 1
    else if below % 2 = 0 then below else below + 1) * unit

theorem nearestDouble_exact {m : ℕ} (h : m ≤ 2 ^ 53) : nearestDouble m = m := by
  by_cases hm : m = 2 ^ 53
  · subst hm
    decide +kernel
  · have hlog : Nat.log2 m - 52 = 0 := by
      have hlt : Nat.log2 m < 53 := by
        by_cases h0 : m = 0
        · subst h0
          decide
        · exact (Nat.log2_lt h0).mpr (by omega)
      omega
    unfold nearestDouble
    simp only [hlog, pow_zero, Nat.mod_one, Nat.div_one, Nat.mul_zero, Nat.zero_lt_one, if_true,
      Nat.mul_one]

/-- The text of a number: all digits of an integer below the bound. -/
def digitsBelow (bound : ℕ) (q : ℚ) : String :=
  if q.den = 1 ∧ q.num.natAbs < bound then intText q.num else String.ofList (Decimal.render q)

theorem digitsBelow_int {bound : ℕ} {n : ℤ} (h : n.natAbs < bound) :
    digitsBelow bound n = intText n := by
  simp only [digitsBelow, Rat.den_intCast, Rat.num_intCast, h, and_self, if_true]

/-- Double precision; `tostring` writes 14 digits and an argument has 17. -/
def doubles : LuaNumbers where
  ofInt n := n.sign * nearestDouble n.natAbs
  tonumber s := match integerOf s with
    | some n => some (n.sign * nearestDouble n.natAbs)
    | none => Decimal.parse s.toList
  tostring := digitsBelow (10 ^ 14)
  argument := digitsBelow (10 ^ 17)
  tonumber_intText n := by rw [integerOf_intText]
  ofInt_exact n h := by
    rw [nearestDouble_exact h]
    rw [← Int.cast_natCast n.natAbs, ← Int.cast_mul, Int.sign_mul_natAbs]
  argument_exact n h := digitsBelow_int (by omega)
  tostring_exact n h := digitsBelow_int h

/-- Doubles read the texts of floats back. -/
theorem doubles_tonumber_render (q : ℚ) :
    doubles.tonumber (String.ofList (Decimal.render q)) = some q := by
  have hnone : integerOf (String.ofList (Decimal.render q)) = none := by
    -- the text of a float has a point or an exponent, that of an integer has neither
    have hne : ∀ n, String.ofList (Decimal.render q) ≠ intText n := by
      intro n h
      have hl : Decimal.render q = Json.printInt n := String.ofList_injective h
      have hmark : ∀ c ∈ Decimal.render q, Json.isMark c = false := by
        intro c hc
        rw [hl] at hc
        exact (Json.printInt_chars n c hc).2
      rcases Decimal.render_mark q with hdot | he
      · exact absurd (hmark _ hdot) (by decide)
      · exact absurd (hmark _ he) (by decide)
    simp only [integerOf, hne, if_false]
  show (match integerOf (String.ofList (Decimal.render q)) with
    | some n => some (n.sign * nearestDouble n.natAbs : ℚ)
    | none => Decimal.parse (String.ofList (Decimal.render q)).toList) = some q
  rw [hnone, String.toList_ofList]
  exact Decimal.parse_render q

end Redis
