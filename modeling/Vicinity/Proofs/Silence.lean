import Mathlib.Algebra.BigOperators.Fin
import Mathlib.Order.OrderIsoNat
import Vicinity.Proofs.Exchange
import Vicinity.Proofs.Message.Legible

/-! No storms. A message makes a node say one thing at most, and what it says makes no other node say
anything; the passing of time makes nobody speak. So the messages on their way that provoke others
become fewer with everything that is said, in whatever order they arrive, and a network that is left
to itself falls silent. -/
namespace Vicinity

namespace Message

variable {m m' : Message}

/-- Whether a message asks for another one: reports of beacons and questions do. -/
def provokes (m : Message) : Bool :=
  match m.body with
  | .beaconReport _ _ | .syncRequest _ _ _ _ => true
  | _ => false

theorem provokes_of_kind (same : m'.kind = m.kind) : m'.provokes = m.provokes := by
  obtain ⟨_,_,body⟩ := m
  obtain ⟨_,_,body'⟩ := m'
  cases body <;> cases body' <;> first | rfl | exact absurd same (by simp [kind,Body.kind])

end Message

namespace Engine

variable {e : Engine} {op : Operation} {m : Message}

/-! ## One message -/

/-- What a message of a kind is answered with. -/
inductive Provokes : Message.Body → Message.Body → Prop
  | report {peer first second : Entity} {beacons : List Entity} {d : Distance} :
    Provokes (.beaconReport peer beacons) (.proximityUpdate first second d)
  | question {topic : String} {beacons : List Entity} {wanted : Group} {within : Distance}
      {found : Entity} :
    Provokes (.syncRequest topic beacons wanted within) (.syncResponse found)

theorem Provokes.provokes {c : Message.Body} (provoked : Provokes m.body c) :
    m.provokes = true := by
  obtain ⟨sender,logId,body⟩ := m
  cases provoked <;> rfl

/-- What one message provokes provokes no other. -/
theorem Provokes.quiet {b : Message.Body} (provoked : Provokes b m.body) :
    m.provokes = false := by
  obtain ⟨sender,logId,body⟩ := m
  cases provoked <;> rfl

/-- A message makes a node publish one message at most, and only as an answer. -/
structure Responds (e : Engine) (op : Operation) (m : Message) : Prop where
  news : (e.apply op).2.transport.published = e.transport.published ++ e.news op
  once : (e.news op).length ≤ 1
  answer : ∀ p ∈ e.news op, Provokes m.body p.2.body
  quiet : m.provokes = false → e.news op = []

theorem news_of_published {said : List (Channel × Message)}
    (published : (e.apply op).2.transport.published = e.transport.published ++ said) :
    e.news op = said := by
  rw [news,published,List.drop_left]

theorem published_hear (m : Message) : (e.apply (.hear m)).2.transport.published =
    e.transport.published ++ e.uttered ((e.heard? (.hear m)).elim [] e.response) := by
  rw [(apply_aside e (.hear m)).transport]
  exact hear_published e (.hear m)

theorem published_hearPayload (payload : ByteArray) :
    (e.apply (.hearPayload payload)).2.transport.published = e.transport.published ++
      e.uttered ((e.heard? (.hearPayload payload)).elim [] e.response) := by
  rw [(apply_aside e (.hearPayload payload)).transport]
  exact hear_published e (.hearPayload payload)

theorem response_once (e : Engine) (body : Message.Body) : (e.response body).length ≤ 1 := by
  cases body <;> simp only [response] <;> first | exact Nat.zero_le 1 | skip
  case beaconReport peer beacons =>
    split
    · cases e.estimated? peer beacons <;> simp
    · exact Nat.zero_le 1
  case syncRequest topic beacons wanted within =>
    split
    · exact Nat.le_refl 1
    · exact Nat.zero_le 1

theorem response_provoked {body : Message.Body} {s : Saying} (said : s ∈ e.response body) :
    Provokes body s.body := by
  cases body <;> simp only [response,List.mem_ite_nil_right,List.mem_singleton,Option.mem_toList,
    Option.map_eq_some_iff,List.not_mem_nil] at said
  case beaconReport peer beacons =>
    obtain ⟨-,d,-,rfl⟩ := said
    exact .report
  case syncRequest topic beacons wanted within =>
    obtain ⟨-,rfl⟩ := said
    exact .question

theorem uttered_length (e : Engine) (ss : List Saying) : (e.uttered ss).length ≤ ss.length := by
  rw [uttered]
  split <;> simp

theorem responds_of_published
    (published : (e.apply op).2.transport.published =
      e.transport.published ++ e.uttered ((e.heard? op).elim [] e.response))
    (received : op.received? = some m) : Responds e op m := by
  have news := news_of_published published
  have answer : ∀ p ∈ e.news op, Provokes m.body p.2.body := by
    rintro ⟨c,r⟩ member
    rw [news] at member
    obtain ⟨s,said,signed⟩ := mem_uttered member
    cases heard : e.heard? op with
    | none =>
      rw [heard] at said
      cases said
    | some body =>
      obtain ⟨m',same,rfl⟩ := received_of_heard heard
      obtain rfl := Option.some.inj (received.symm.trans same)
      rw [heard] at said
      rw [signed]
      exact response_provoked said
  constructor
  case news => rw [published,news]
  case once =>
    rw [news]
    refine (uttered_length e _).trans ?_
    cases e.heard? op with
    | none => exact Nat.zero_le 1
    | some body => exact response_once e body
  case answer => exact answer
  case quiet =>
    intro quiet
    refine List.eq_nil_iff_forall_not_mem.mpr fun p member => ?_
    rw [(answer p member).provokes] at quiet
    cases quiet

theorem responds (received : op.received? = some m) : Responds e op m := by
  cases op <;> simp only [Operation.received?,reduceCtorEq] at received
  case hear message => exact responds_of_published (published_hear message) received
  case hearPayload payload => exact responds_of_published (published_hearPayload payload) received

/-- Nobody speaks because time passes. -/
theorem published_pass (passes : op.passesTime = true) :
    (e.apply op).2.transport.published = e.transport.published := by
  rw [(apply_aside e op).transport]
  cases op <;> simp only [Operation.passesTime,Bool.false_eq_true] at passes
  all_goals exact closeAll_published ..

/-- Whether an operation brings a message to a node, as it is or as its payload. -/
def Operation.Carries (op : Operation) (m : Message) : Prop :=
  op = .hear m ∨ op = .hearPayload m.encode

/-- What a payload is decoded as provokes as much as what was encoded. -/
theorem Operation.Carries.received (carries : op.Carries m) :
    op.received? = none ∨ ∃ m', op.received? = some m' ∧ m'.provokes = m.provokes := by
  rcases carries with rfl | rfl
  · exact .inr ⟨m,rfl,rfl⟩
  · rw [Operation.received?]
    split
    · exact .inl rfl
    · cases read : Message.decode m.encode with
      | error defect => exact .inl rfl
      | ok m' =>
        exact .inr ⟨m',rfl,Message.provokes_of_kind (Message.legible_of_decode read).kind⟩

/-- Once a message is delivered the node says one thing at most, if the message provokes, and
what it says does not. -/
structure Calm (e : Engine) (op : Operation) (m : Message) : Prop where
  news : (e.apply op).2.transport.published = e.transport.published ++ e.news op
  length : (e.news op).length ≤ if m.provokes then 1 else 0
  quiet : ∀ p ∈ e.news op, p.2.provokes = false

theorem Operation.Carries.calm (carries : op.Carries m) : Calm e op m := by
  rcases carries.received with unread | ⟨m',received,same⟩
  · have published : (e.apply op).2.transport.published = e.transport.published ++ [] := by
      have unheard : e.heard? op = none := by rw [heard?_received,unread,Option.bind_none]
      rcases carries with rfl | rfl
      · rw [published_hear,unheard,Option.elim_none,uttered_nil]
      · rw [published_hearPayload,unheard,Option.elim_none,uttered_nil]
    have news := news_of_published published
    exact ⟨by rw [published,news],by simp [news],by simp [news]⟩
  · have responds := responds (e := e) received
    refine ⟨responds.news,?_,fun p member => (responds.answer p member).quiet⟩
    rw [← same]
    split
    · exact responds.once
    next calm => exact (responds.quiet (Bool.eq_false_iff.mpr calm) ▸ Nat.le_refl 0)

/-- How much a node has said. -/
def volume (e : Engine) : Nat := e.transport.published.length

end Engine

/-! ## Networks -/

open Engine (Operation Responds)

/-- Nodes, and the messages that are still to be delivered to one of them each. -/
structure Mesh (n : Nat) where
  node : Fin n → Engine
  due : Multiset (Message × Fin n)

namespace Mesh

variable {n d : Nat} {N N' : Mesh n} {news : List (Channel × Message)}
  {more : Multiset (Message × Fin n)}

/-- What is published goes to some of the nodes, to each of them once at most. -/
inductive Spread : List (Channel × Message) → Multiset (Message × Fin n) → Prop
  | none : Spread [] 0
  | more {c : Channel} {m : Message} {news : List (Channel × Message)}
      {due : Multiset (Message × Fin n)} (targets : Finset (Fin n)) (rest : Spread news due) :
    Spread ((c,m) :: news) (targets.val.map (m,·) + due)

/-- What a node does, and where what it says goes. -/
def act (N : Mesh n) (j : Fin n) (op : Operation) (due : Multiset (Message × Fin n)) : Mesh n :=
  ⟨Function.update N.node j ((N.node j).apply op).2,due⟩

/-- One step of a network without local operations: a message is delivered, or the time of a node
passes. The number is that of deliveries. -/
inductive Step (N : Mesh n) : Nat → Mesh n → Prop
  | deliver {m : Message} {j : Fin n} {rest more : Multiset (Message × Fin n)} {op : Operation}
      (due : N.due = (m,j) ::ₘ rest) (carries : op.Carries m)
      (spread : Spread ((N.node j).news op) more) : Step N 1 (N.act j op (rest + more))
  | pass {j : Fin n} {more : Multiset (Message × Fin n)} {op : Operation}
      (passes : op.passesTime = true) (spread : Spread ((N.node j).news op) more) :
    Step N 0 (N.act j op (N.due + more))

/-- Steps one after another, with the number of deliveries. -/
inductive Run : Mesh n → Nat → Mesh n → Prop
  | nil {N : Mesh n} : Run N 0 N
  | cons {N N' N'' : Mesh n} {d d' : Nat} (step : Step N d N') (run : Run N' d' N'') :
    Run N (d + d') N''

/-- How much has been said. -/
def spoken (N : Mesh n) : Nat := ∑ j, (N.node j).volume

/-- How much may still be said: the messages on their way that provoke. -/
def potential (N : Mesh n) : Nat := N.due.countP (·.1.provokes)

theorem Spread.card (spread : Spread news more) : more.card ≤ n * news.length := by
  induction spread with
  | none => simp
  | more targets rest ih =>
    have few : targets.card ≤ n := by simpa using targets.card_le_univ
    simp only [Multiset.card_add,Multiset.card_map,Finset.card_val,List.length_cons,Nat.mul_succ]
    omega

theorem Spread.quiet (spread : Spread news more) (quiet : ∀ p ∈ news, p.2.provokes = false) :
    more.countP (·.1.provokes) = 0 := by
  induction spread with
  | none => rfl
  | more targets rest ih =>
    obtain ⟨calm,quiet⟩ := List.forall_mem_cons.mp quiet
    simp [Multiset.countP_map,ih quiet,calm]

theorem spoken_act {j : Fin n} {op : Operation} {said : List (Channel × Message)}
    (published : ((N.node j).apply op).2.transport.published =
      (N.node j).transport.published ++ said) (due : Multiset (Message × Fin n)) :
    (N.act j op due).spoken = N.spoken + said.length := by
  have louder : ((N.node j).apply op).2.volume = (N.node j).volume + said.length := by
    rw [Engine.volume,published,List.length_append,Engine.volume]
  have changed : Engine.volume ∘ (N.act j op due).node =
      Function.update (Engine.volume ∘ N.node) j ((N.node j).volume + said.length) := by
    rw [act,Function.comp_update,louder]
  have before := Finset.sum_eq_add_sum_sdiff_singleton_of_mem (Finset.mem_univ j)
    (Engine.volume ∘ N.node)
  have after := Finset.sum_update_of_mem (Finset.mem_univ j) (Engine.volume ∘ N.node)
    ((N.node j).volume + said.length)
  rw [← changed] at after
  simp only [Function.comp_apply] at before after
  rw [spoken,spoken,before,after]
  omega

theorem logs_act {j : Fin n} {op : Operation} {due : Multiset (Message × Fin n)}
    (published : ((N.node j).apply op).2.transport.published = (N.node j).transport.published)
    (i : Fin n) : ((N.act j op due).node i).transport.published =
      (N.node i).transport.published := by
  simp only [act]
  by_cases same : i = j
  · subst same
    rw [Function.update_self,published]
  · rw [Function.update_of_ne same]

/-- What becomes of a network in one step. Each thing that is said uses up something that provokes
it; and since one thing that is said is to be delivered to `n` nodes at most, what is still to be
delivered is bounded with what is still to be said. -/
structure Wanes (N : Mesh n) (d : Nat) (N' : Mesh n) : Prop where
  spoken : N'.spoken + N'.potential ≤ N.spoken + N.potential
  due : d + N'.due.card + n * N'.potential ≤ N.due.card + n * N.potential
  potential : N'.potential ≤ N.potential
  logs : N'.potential = N.potential →
    ∀ i, (N'.node i).transport.published = (N.node i).transport.published

theorem wanes_deliver {m : Message} {j : Fin n} {rest : Multiset (Message × Fin n)} {op : Operation}
    (due : N.due = (m,j) ::ₘ rest) (carries : op.Carries m)
    (spread : Spread ((N.node j).news op) more) : Wanes N 1 (N.act j op (rest + more)) := by
  have calm := carries.calm (e := N.node j)
  have spoken := spoken_act calm.news (rest + more)
  have before : N.potential = rest.countP (·.1.provokes) + if m.provokes then 1 else 0 := by
    rw [potential,due,Multiset.countP_cons]
  have after : (N.act j op (rest + more)).potential = rest.countP (·.1.provokes) := by
    rw [potential,act,Multiset.countP_add,spread.quiet calm.quiet,Nat.add_zero]
  have card : N.due.card = rest.card + 1 := by rw [due,Multiset.card_cons]
  have length := calm.length
  by_cases provokes : m.provokes = true
  · rw [if_pos provokes] at before length
    have copies : more.card ≤ n := by
      have := Nat.mul_le_mul_left n length
      have := spread.card
      omega
    constructor
    case spoken => omega
    case due =>
      rw [before,after,act,card,Multiset.card_add,Nat.mul_succ]
      omega
    case potential => omega
    case logs => omega
  · rw [if_neg provokes,Nat.add_zero] at before
    rw [if_neg provokes] at length
    have silent := List.eq_nil_of_length_eq_zero (Nat.le_zero.mp length)
    have copies : more.card ≤ 0 := by simpa [silent] using spread.card
    constructor
    case spoken => omega
    case due =>
      rw [before,after,act,card,Multiset.card_add]
      omega
    case potential => omega
    case logs => exact fun _ => logs_act (by rw [calm.news,silent,List.append_nil])

theorem wanes_pass {j : Fin n} {op : Operation} (passes : op.passesTime = true)
    (spread : Spread ((N.node j).news op) more) : Wanes N 0 (N.act j op (N.due + more)) := by
  have published := Engine.published_pass (e := N.node j) passes
  have silent : (N.node j).news op = [] :=
    Engine.news_of_published (published.trans (List.append_nil _).symm)
  rw [silent] at spread
  cases spread
  have spoken := spoken_act (published.trans (List.append_nil _).symm) (N.due + 0)
  have after : (N.act j op (N.due + 0)).potential = N.potential := by
    rw [potential,act,Multiset.add_zero,potential]
  constructor
  case spoken => rw [spoken,after,List.length_nil,Nat.add_zero]
  case due => rw [after,act,Multiset.add_zero,Nat.zero_add]
  case potential => exact after.le
  case logs => exact fun _ => logs_act published

theorem Step.wanes (step : Step N d N') : Wanes N d N' := by
  cases step with
  | deliver due carries spread => exact wanes_deliver due carries spread
  | pass passes spread => exact wanes_pass passes spread

theorem Wanes.trans {N'' : Mesh n} {d' : Nat} (first : Wanes N d N') (second : Wanes N' d' N'') :
    Wanes N (d + d') N'' where
  spoken := second.spoken.trans first.spoken
  due := by
    have := first.due
    have := second.due
    omega
  potential := second.potential.trans first.potential
  logs same i := by
    have := first.potential
    have := second.potential
    rw [second.logs (by omega),first.logs (by omega)]

theorem Run.wanes (run : Run N d N') : Wanes N d N' := by
  induction run with
  | nil => exact ⟨Nat.le_refl _,by omega,Nat.le_refl _,fun _ _ => rfl⟩
  | cons step run ih => exact step.wanes.trans ih

/-- A network that is left to itself: what it still says and what it still delivers is bounded, and
there comes a time from which nobody says anything. -/
structure Settles (N : Mesh n) : Prop where
  spoken : ∀ {d N'}, Run N d N' → N'.spoken ≤ N.spoken + N.due.card
  due : ∀ {d N'}, Run N d N' → d + N'.due.card ≤ (n + 1) * N.due.card
  silent : ∀ history : Nat → Mesh n, history 0 = N →
    (∀ i, ∃ d, Step (history i) d (history (i + 1))) →
    ∃ k, ∀ i, k ≤ i → ∀ j,
      ((history i).node j).transport.published = ((history k).node j).transport.published

theorem potential_le (N : Mesh n) : N.potential ≤ N.due.card := Multiset.countP_le_card _ _

/-- Of the times from which nothing more provokes than at the end, the network is silent. -/
theorem silence (history : Nat → Mesh n) (steps : ∀ i, ∃ d, Step (history i) d (history (i + 1))) :
    ∃ k, ∀ i, k ≤ i → ∀ j,
      ((history i).node j).transport.published = ((history k).node j).transport.published := by
  have falls : Antitone fun i => (history i).potential := antitone_nat_of_succ_le fun i => by
    obtain ⟨d,step⟩ := steps i
    exact step.wanes.potential
  -- the potential never falls below its least value, so from there on it stays
  let k := Function.argmin fun i => (history i).potential
  have least : ∀ i, (history k).potential ≤ (history i).potential :=
    fun i => Function.argmin_le (fun i => (history i).potential) i
  refine ⟨k,fun i later => ?_⟩
  induction i,later using Nat.le_induction with
  | base => exact fun _ => rfl
  | succ i later ih =>
    obtain ⟨d,step⟩ := steps i
    have stays : (history (i + 1)).potential = (history i).potential :=
      Nat.le_antisymm step.wanes.potential ((falls later).trans (least (i + 1)))
    exact fun j => (step.wanes.logs stays j).trans (ih j)

theorem settles (N : Mesh n) : N.Settles where
  spoken run := by
    have := run.wanes.spoken
    have := N.potential_le
    omega
  due run := by
    have balance := run.wanes.due
    have bound := Nat.mul_le_mul_left n N.potential_le
    rw [Nat.succ_mul]
    omega
  silent history _ steps := silence history steps

end Mesh

namespace Engine

/-- No storms: a message makes a node publish one message at most, and only a report of beacons or a
question does; the passing of time makes no node publish; and a network that is left to itself, in
whatever state and with whatever on its way, falls silent. -/
theorem no_storms :
    (∀ (e : Engine) (op : Operation) (m : Message), op.received? = some m → Responds e op m) ∧
    (∀ (e : Engine) (op : Operation), op.passesTime = true →
      (e.apply op).2.transport.published = e.transport.published) ∧
    ∀ {n : Nat} (N : Mesh n), N.Settles :=
  ⟨fun _ _ _ => responds,fun _ _ => published_pass,fun N => N.settles⟩

/-- A question on its way to two nodes, one of which answers. -/
def searched : Mesh 2 := ⟨![neighbour.asked,recluse.asked],{(search,0),(search,1)}⟩

theorem no_storms_search :
    (Operation.hear search).received? = some search ∧
    Responds neighbour.asked (.hear search) search ∧
    (neighbour.asked.news (.hear search)).length = 1 ∧
    (Operation.elapse 5000).passesTime = true ∧
    (recluse.asked.apply (.elapse 5000)).2.transport.published = recluse.asked.transport.published ∧
    ∃ N, Mesh.Run searched 1 N ∧ N.spoken ≤ searched.spoken + 2 := by
  have answered : neighbour.asked.news (.hear search) =
      [(.reply seeker.question.topic,⟨.of "you",seeker.question.topic,
        .syncResponse (neighbour.entry seeker.question)⟩)] := rfl
  have due : searched.due = (search,0) ::ₘ {(search,1)} := rfl
  have spread : Mesh.Spread ((searched.node 0).news (.hear search)) _ :=
    answered.symm ▸ Mesh.Spread.more (n := 2) {1} .none
  have run : Mesh.Run searched 1 _ := .cons (.deliver due (.inl rfl) spread) .nil
  exact ⟨rfl,no_storms.1 _ _ _ rfl,congrArg List.length answered,rfl,no_storms.2.1 _ _ rfl,
    _,run,(no_storms.2.2 searched).spoken run⟩

end Engine

end Vicinity
