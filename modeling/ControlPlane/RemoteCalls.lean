/-
# Clients of a remote server

Any number of clients send requests to one server.  A client is a program that sends a
request, waits for the answer and goes on; the requests of the clients are served in any
order, an answer can get lost after the request was served or before, and the server can
refuse a request.  A client that is never served again has been cut off.

What clients guarantee to each other is a relation between scenes (the state of the server
and the log of the requests), and a client may rely on what the others guarantee
(`Safe`, `Reaches.safe`).
-/
import Mathlib.Logic.Function.Basic
import Mathlib.Logic.Relation
import Mathlib.Tactic.Common

namespace RemoteCalls

variable {W Req Resp ε α β : Type}

/-! ## Clients -/

/-- A client: it has ended, or it sends a request and goes on with the answer. -/
inductive Client (Req Resp ε α : Type) where
  | done (result : Except ε α)
  | send (r : Req) (k : Except ε Resp → Client Req Resp ε α)

namespace Client

/-- One client after the other. -/
def bind : Client Req Resp ε α → (α → Client Req Resp ε β) → Client Req Resp ε β
  | done (.ok a), f => f a
  | done (.error e), _ => done (.error e)
  | send r k, f => send r (fun a => (k a).bind f)

instance : Monad (Client Req Resp ε) where
  pure a := done (.ok a)
  bind := bind

/-- Run a client, then a handler on its exception. -/
def handle : Client Req Resp ε α → (ε → Client Req Resp ε α) → Client Req Resp ε α
  | done (.ok a), _ => done (.ok a)
  | done (.error e), h => h e
  | send r k, h => send r (fun a => (k a).handle h)

instance : MonadExceptOf ε (Client Req Resp ε) where
  throw e := done (.error e)
  tryCatch := handle

/-- Send one request. -/
def call (r : Req) : Client Req Resp ε Resp := send r done

@[simp] theorem pure_eq (a : α) : (pure a : Client Req Resp ε α) = done (.ok a) := rfl
@[simp] theorem throw_eq (e : ε) : (throw e : Client Req Resp ε α) = done (.error e) := rfl
@[simp] theorem bind_ok (a : α) (f : α → Client Req Resp ε β) :
    done (.ok a) >>= f = f a := rfl
@[simp] theorem bind_error (e : ε) (f : α → Client Req Resp ε β) :
    (done (.error e) >>= f) = done (.error e) := rfl
@[simp] theorem bind_send (r : Req) (k : Except ε Resp → Client Req Resp ε α)
    (f : α → Client Req Resp ε β) : send r k >>= f = send r (fun a => k a >>= f) := rfl

end Client

/-! ## The network -/

/-- A server: what it does with a request, and which answers are refusals. -/
structure Server (W Req Resp : Type) where
  serve : W → Req → Resp × W
  isRefusal : Resp → Prop

/-- The state of the server, and who has sent which request, the latest first. -/
structure Scene (W Req : Type) where
  world : W
  log : List (ℕ × Req)

/-- A scene with the clients. -/
structure Net (W Req Resp ε α : Type) extends Scene W Req where
  clients : ℕ → Client Req Resp ε α

/-- What a client can get for its request, and what becomes of the state. -/
inductive Answers (sv : Server W Req Resp) (w : W) (r : Req) : Except ε Resp → W → Prop
  | served : Answers sv w r (.ok (sv.serve w r).1) (sv.serve w r).2
  | lost (e : ε) : Answers sv w r (.error e) (sv.serve w r).2
  | dropped (e : ε) : Answers sv w r (.error e) w
  | refused (answer : Resp) : sv.isRefusal answer → Answers sv w r (.ok answer) w

variable (sv : Server W Req Resp) (env : W → W → Prop)

/-- One client sends its next request. -/
inductive StepBy (n : ℕ) : Net W Req Resp ε α → Net W Req Resp ε α → Prop
  | send {σ : Net W Req Resp ε α} {r : Req} {k : Except ε Resp → Client Req Resp ε α}
      {a : Except ε Resp} {w : W} : σ.clients n = .send r k → Answers sv σ.world r a w →
      StepBy n σ ⟨⟨w, (n, r) :: σ.log⟩, Function.update σ.clients n (k a)⟩

/-- A client sends a request, or somebody else changes the state of the server. -/
inductive Step : Net W Req Resp ε α → Net W Req Resp ε α → Prop
  | client {n : ℕ} {σ σ' : Net W Req Resp ε α} : StepBy sv n σ σ' → Step σ σ'
  | elsewhere {σ : Net W Req Resp ε α} {w : W} : env σ.world w →
      Step σ { σ with world := w }

/-- The steps lead from one state of the network to another. -/
def Reaches : Net W Req Resp ε α → Net W Req Resp ε α → Prop :=
  Relation.ReflTransGen (Step sv env)

/-! ## Rely and guarantee -/

/-- A step of anyone but the client. -/
inductive Others (G : ℕ → Scene W Req → Scene W Req → Prop) (n : ℕ) :
    Scene W Req → Scene W Req → Prop
  | client {m : ℕ} {s s' : Scene W Req} : m ≠ n → G m s s' → Others G n s s'
  | elsewhere {s : Scene W Req} {w : W} : env s.world w → Others G n s { s with world := w }

/-- What can happen while a client waits. -/
def Rely (G : ℕ → Scene W Req → Scene W Req → Prop) (n : ℕ) :
    Scene W Req → Scene W Req → Prop :=
  Relation.ReflTransGen (Others env G n)

/-- Client number `n` keeps to its guarantee `G` as long as what it waits through satisfies
`R`, and it ends with a result and in a scene that satisfy `Q`. -/
def Safe (n : ℕ) (R G : Scene W Req → Scene W Req → Prop)
    (Q : Except ε α → Scene W Req → Prop) : Client Req Resp ε α → Scene W Req → Prop
  | .done result, s => Q result s
  | .send r k, s => ∀ s', R s s' → ∀ a w, Answers sv s'.world r a w →
      G s' ⟨w, (n, r) :: s'.log⟩ ∧ Safe n R G Q (k a) ⟨w, (n, r) :: s'.log⟩

section Rules

variable {sv env} {n : ℕ} {R G : Scene W Req → Scene W Req → Prop}

theorem safe_mono {Q Q' : Except ε α → Scene W Req → Prop} (hQ : ∀ r s, Q r s → Q' r s)
    {p : Client Req Resp ε α} {s : Scene W Req} (h : Safe sv n R G Q p s) :
    Safe sv n R G Q' p s := by
  induction p generalizing s with
  | done result => exact hQ result s h
  | send r k ih =>
      intro s' hs' a w ha
      obtain ⟨hG, hk⟩ := h s' hs' a w ha
      exact ⟨hG, ih a hk⟩

theorem safe_bind {Q : Except ε β → Scene W Req → Prop} {p : Client Req Resp ε α}
    {f : α → Client Req Resp ε β} {s : Scene W Req}
    (h : Safe sv n R G (fun r s => match r with
      | .ok a => Safe sv n R G Q (f a) s
      | .error e => Q (.error e) s) p s) :
    Safe sv n R G Q (p >>= f) s := by
  induction p generalizing s with
  | done result =>
      cases result with
      | ok a => exact h
      | error e => exact h
  | send r k ih =>
      intro s' hs' a w ha
      obtain ⟨hG, hk⟩ := h s' hs' a w ha
      exact ⟨hG, ih a hk⟩

theorem safe_handle {Q : Except ε α → Scene W Req → Prop} {p : Client Req Resp ε α}
    {f : ε → Client Req Resp ε α} {s : Scene W Req}
    (h : Safe sv n R G (fun r s => match r with
      | .ok a => Q (.ok a) s
      | .error e => Safe sv n R G Q (f e) s) p s) :
    Safe sv n R G Q (p.handle f) s := by
  induction p generalizing s with
  | done result =>
      cases result with
      | ok a => exact h
      | error e => exact h
  | send r k ih =>
      intro s' hs' a w ha
      obtain ⟨hG, hk⟩ := h s' hs' a w ha
      exact ⟨hG, ih a hk⟩

/-- One request under an assertion that the others keep. -/
theorem safe_call {A : Scene W Req → Prop} {Q : Except ε Resp → Scene W Req → Prop} {r : Req}
    (hstable : ∀ s s', R s s' → A s → A s')
    (hstep : ∀ s, A s → ∀ a w, Answers sv s.world r a w →
      G s ⟨w, (n, r) :: s.log⟩ ∧ Q a ⟨w, (n, r) :: s.log⟩)
    {s : Scene W Req} (hs : A s) :
    Safe sv n R G Q (Client.call r : Client Req Resp ε Resp) s := by
  intro s' hs' a w ha
  exact hstep s' (hstable s s' hs' hs) a w ha

end Rules

section Soundness

variable {sv env} {G : ℕ → Scene W Req → Scene W Req → Prop}
  {Q : ℕ → Except ε α → Scene W Req → Prop} {σ₀ σ σ' : Net W Req Resp ε α}

/-- A step of a client that is safe satisfies its guarantee, and leaves it safe. -/
theorem StepBy.safe {n : ℕ} (h : StepBy sv n σ σ') {s : Scene W Req}
    (hwait : Rely env G n s σ.toScene)
    (hsafe : Safe sv n (Rely env G n) (G n) (Q n) (σ.clients n) s) :
    G n σ.toScene σ'.toScene ∧
      Safe sv n (Rely env G n) (G n) (Q n) (σ'.clients n) σ'.toScene ∧
      ∀ m, m ≠ n → σ'.clients m = σ.clients m := by
  cases h with
  | @send r k a w hclient ha =>
      rw [hclient] at hsafe
      obtain ⟨hG, hk⟩ := hsafe _ hwait a w ha
      refine ⟨hG, ?_, fun m hm => Function.update_of_ne hm _ _⟩
      have hnext : Function.update σ.clients n (k a) n = k a := Function.update_self _ _ _
      rw [← hnext] at hk
      exact hk

/-- **Safe clients stay safe together.** -/
theorem Reaches.safe (h : Reaches sv env σ₀ σ)
    (hsafe : ∀ n, Safe sv n (Rely env G n) (G n) (Q n) (σ₀.clients n) σ₀.toScene) :
    ∀ n, ∃ s, Rely env G n s σ.toScene ∧
      Safe sv n (Rely env G n) (G n) (Q n) (σ.clients n) s := by
  induction h with
  | refl => exact fun n => ⟨_, .refl, hsafe n⟩
  | tail _ hstep ih =>
      intro n
      obtain ⟨s, hwait, hn⟩ := ih n
      cases hstep with
      | @client m _ _ hby =>
          obtain ⟨t, hwait', hm⟩ := ih m
          obtain ⟨hG, hnext, hsame⟩ := hby.safe hwait' hm
          by_cases hmn : m = n
          · subst hmn
            exact ⟨_, .refl, hnext⟩
          · refine ⟨s, hwait.tail (.client hmn hG), ?_⟩
            rw [hsame n (Ne.symm hmn)]
            exact hn
      | elsewhere henv => exact ⟨s, hwait.tail (.elsewhere henv), hn⟩

/-- What every step keeps holds in every state. -/
theorem Reaches.keeps {I : Scene W Req → Prop} (h : Reaches sv env σ₀ σ)
    (hsafe : ∀ n, Safe sv n (Rely env G n) (G n) (Q n) (σ₀.clients n) σ₀.toScene)
    (hG : ∀ n s s', G n s s' → I s → I s') (henv : ∀ s w, env s.world w → I s →
      I { s with world := w }) (hI : I σ₀.toScene) : I σ.toScene := by
  induction h with
  | refl => exact hI
  | tail hreach hstep ih =>
      cases hstep with
      | @client m _ _ hby =>
          obtain ⟨t, hwait, hm⟩ := Reaches.safe hreach hsafe m
          exact hG m _ _ (hby.safe hwait hm).1 ih
      | elsewhere he => exact henv _ _ he ih

/-- **What holds when a client ends.** -/
theorem Reaches.ends (h : Reaches sv env σ₀ σ)
    (hsafe : ∀ n, Safe sv n (Rely env G n) (G n) (Q n) (σ₀.clients n) σ₀.toScene) {n : ℕ}
    (hstep : StepBy sv n σ σ') {result : Except ε α} (hdone : σ'.clients n = .done result) :
    Q n result σ'.toScene := by
  obtain ⟨s, hwait, hn⟩ := h.safe hsafe n
  have hnext := (hstep.safe hwait hn).2.1
  rw [hdone] at hnext
  exact hnext

end Soundness

/-! ## One client alone -/

/-- Run a client with nobody else, and nothing lost or refused. -/
def Client.run (sv : Server W Req Resp) : Client Req Resp ε α → W → Except ε α × W
  | .done result, w => (result, w)
  | .send r k, w => (k (.ok (sv.serve w r).1)).run sv (sv.serve w r).2

/-- The requests that it sends in this run, the latest first. -/
def Client.sent (sv : Server W Req Resp) : Client Req Resp ε α → W → List Req
  | .done _, _ => []
  | .send r k, w => (k (.ok (sv.serve w r).1)).sent sv (sv.serve w r).2 ++ [r]

section Alone

variable {sv}

theorem run_call (r : Req) (w : W) :
    (Client.call r : Client Req Resp ε Resp).run sv w =
      (.ok (sv.serve w r).1, (sv.serve w r).2) := rfl

theorem Client.sent_send (r : Req) (k : Except ε Resp → Client Req Resp ε α) (w : W) :
    (Client.send r k).sent sv w =
      (k (.ok (sv.serve w r).1)).sent sv (sv.serve w r).2 ++ [r] := rfl

theorem run_bind_ok {p : Client Req Resp ε α} {f : α → Client Req Resp ε β} {w w' : W} {a : α}
    (h : p.run sv w = (.ok a, w')) : (p >>= f).run sv w = (f a).run sv w' := by
  induction p generalizing w with
  | done result =>
      cases h
      rfl
  | send r k ih => exact ih _ h

theorem run_handle_ok {p : Client Req Resp ε α} {f : ε → Client Req Resp ε α} {w w' : W} {a : α}
    (h : p.run sv w = (.ok a, w')) : (p.handle f).run sv w = (.ok a, w') := by
  induction p generalizing w with
  | done result =>
      cases h
      rfl
  | send r k ih => exact ih _ h

/-- A run alone is one of the courses that the network can take. -/
theorem reaches_run {n : ℕ} {p : Client Req Resp ε α} {σ : Net W Req Resp ε α}
    (hp : σ.clients n = p) : ∃ σ', Relation.ReflTransGen (StepBy sv n) σ σ' ∧
      σ'.clients n = .done (p.run sv σ.world).1 ∧
      σ'.toScene = ⟨(p.run sv σ.world).2, (p.sent sv σ.world).map (n, ·) ++ σ.log⟩ := by
  induction p generalizing σ with
  | done result => exact ⟨σ, .refl, hp, rfl⟩
  | send r k ih =>
      obtain ⟨σ', hsteps, hdone, hscene⟩ := @ih (.ok (sv.serve σ.world r).1)
        ⟨⟨(sv.serve σ.world r).2, (n, r) :: σ.log⟩,
          Function.update σ.clients n (k (.ok (sv.serve σ.world r).1))⟩
        (Function.update_self _ _ _)
      refine ⟨σ', .head (.send hp .served) hsteps, hdone, hscene.trans ?_⟩
      rw [Client.sent_send, List.map_append, List.append_assoc]
      rfl

theorem reaches_of_steps {env : W → W → Prop} {n : ℕ} {σ σ' : Net W Req Resp ε α}
    (h : Relation.ReflTransGen (StepBy sv n) σ σ') : Reaches sv env σ σ' := by
  induction h with
  | refl => exact .refl
  | tail _ hstep ih => exact ih.tail (.client hstep)

end Alone

end RemoteCalls
