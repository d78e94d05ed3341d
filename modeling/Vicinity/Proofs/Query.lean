import Vicinity.Proofs.Channel
import Vicinity.Proofs.Engine.Waiting

/-! Questions to the network. One is open exactly while its timer waits; it is answered once, when
its time comes, with everybody who replied in between and the beacons that are remembered then. -/
namespace Vicinity.Engine

variable {e f : Engine} {op : Operation}

/-- The participant that replies with a message. -/
def replier? : Message.Body → Option Entity
  | .syncResponse entity => some entity
  | _ => none

/-- The participant whose reply is taken in. -/
def reply? (e : Engine) (op : Operation) : Option Entity := (e.heard? op).bind replier?

/-- Everybody who replies in a run, in order. -/
def repliesIn (e : Engine) : List Operation → List Entity
  | [] => []
  | op :: ops => (e.reply? op).toList ++ (e.apply op).2.repliesIn ops

/-- The token of a question. -/
def Operation.token? : Operation → Option String
  | .ask token _ _ _ => some token
  | _ => none

theorem Sound.query_none (sound : e.Sound) :
    e.query = none ↔ e.timers.waiting? .query = none := by
  have query := congrArg Option.isNone sound.query
  rw [Option.isNone_map,Option.isNone_map] at query
  rw [← Option.isNone_iff_eq_none,← Option.isNone_iff_eq_none,query]

theorem closing?_eq {w : Nat × Deferred} (waits : e.timers.waiting? .query = some w)
    (comes : e.expires op .query w.1 = true) : e.closing? op = some w.2 := by
  simp [closing?,waits,comes,Option.filter_some]

theorem closing?_lasts (lasts : e.ends .query op = false) : e.closing? op = none := by
  rw [closing?]
  cases waits : e.timers.waiting? .query with
  | none => rfl
  | some w =>
    have early : e.expires op .query w.1 = false := by
      by_contra comes
      rw [ends_expired waits (by simpa using comes)] at lasts
      cases lasts
    simp [early,Option.filter_some]

/-! ## One operation -/

theorem prepared_query (e : Engine) (body : Message.Body) : (e.prepared body).query =
    e.query.map fun q => ⟨q.topic,q.replies ++ (replier? body).toList⟩ := by
  have same : e.query = e.query.map fun q => ⟨q.topic,q.replies ++ []⟩ := by simp
  cases body with
  | checkOut entity valid =>
    cases valid
    · simp only [prepared,awaitDeparture]
      split <;> exact same
    · exact same
  | syncResponse entity => rfl
  | _ => exact same

theorem Sound.completed_open (sound : e.Sound) (closed : e.closing? op = none) :
    (e.apply op).2.completed = e.completed := by
  have hears : ((e.heard? op).elim e e.prepared).completed = e.completed := by
    cases e.heard? op with
    | none => rfl
    | some body =>
      obtain ⟨t,q,eq⟩ := prepared_eq e body
      rw [Option.elim_some,eq]
  rw [(sound.apply_moved op).completed]
  cases op
  case hear => exact hears
  case hearPayload => exact hears
  case ask => simp only [Engine.moved]; split <;> rfl
  case elapse => simp only [Engine.moved,closed]; rfl
  case expire => simp only [Engine.moved,closed]; rfl
  case expireDepartures => simp only [Engine.moved,closed]; rfl
  case stop => simp only [Engine.moved,Engine.stop]; split <;> rfl
  all_goals rfl

/-- When the time of the open question comes, it is answered and its channel is given up. -/
theorem Sound.closed (sound : e.Sound) {q : Query} {d : Nat} {within : Distance}
    (asked : e.query = some q)
    (waits : e.timers.waiting? .query = some (d,.query q.topic within))
    (comes : e.expires op .query d = true) :
    (e.apply op).2.completed = e.completed ++
        [⟨q.topic,q.replies ++ e.cache.filter (·.distance ≤ within)⟩] ∧
      (e.apply op).2.transport = e.transport.unlisten (.reply q.topic) := by
  have closing := closing?_eq waits comes
  rw [apply_released (passesTime_of_expires comes),carryAll_eq,sound.closeAll_released,closing]
  have found : e.found within = q.replies ++ e.cache.filter (·.distance ≤ within) := by
    rw [found,asked]
    rfl
  have given : (e.query.elim e.transport fun q => e.transport.unlisten (.reply q.topic)) =
      e.transport.unlisten (.reply q.topic) := by
    rw [asked]
    rfl
  exact ⟨congrArg (fun found => e.completed ++ [⟨q.topic,found⟩]) found,given⟩

/-- A reply is taken in while a question is open. -/
theorem Sound.query_lasting (sound : e.Sound) {q : Query} (asked : e.query = some q)
    (lasts : e.ends .query op = false) :
    (e.apply op).2.query = some ⟨q.topic,q.replies ++ (e.reply? op).toList⟩ := by
  have closed := closing?_lasts lasts
  have hears : ((e.heard? op).elim e e.prepared).query =
      some ⟨q.topic,q.replies ++ (e.reply? op).toList⟩ := by
    cases heard : e.heard? op with
    | none => simp [asked,reply?,heard]
    | some body =>
      rw [Option.elim_some,prepared_query,asked]
      simp [reply?,heard]
  rw [(sound.apply_moved op).query]
  cases op
  case hear => exact hears
  case hearPayload => exact hears
  case ask => simp [Engine.moved,isQueryPending,asked,reply?,heard?]
  case elapse => simp [Engine.moved,closed,withTimers,asked,reply?,heard?]
  case expire => simp [Engine.moved,closed,withTimers,asked,reply?,heard?]
  case expireDepartures => simp [Engine.moved,closed,withTimers,asked,reply?,heard?]
  case stop => cases lasts
  all_goals simp [Engine.moved,asked,reply?,heard?]

theorem Sound.query_ended (sound : e.Sound) (ends : e.ends .query op = true) :
    (e.apply op).2.query = none := by
  rw [(sound.apply op).query_none,sound.waiting?_apply,ends]
  rfl

/-- Only the expiry of its timer and the end of the node end the wait for an answer. -/
theorem ends_query (ends : e.ends .query op = true) :
    op = .stop ∨ ∃ w, e.timers.waiting? .query = some w ∧ e.expires op .query w.1 = true := by
  have unsettled : ∀ body, settles .query body = false := fun body => by
    cases body with
    | checkOut entity valid => cases valid <;> rfl
    | _ => rfl
  have hears : (e.heard? op).any (settles .query) = false := by
    cases e.heard? op <;> simp [unsettled]
  cases op
  case stop => exact .inl rfl
  case hear => exact absurd (ends.symm.trans hears) (by simp)
  case hearPayload => exact absurd (ends.symm.trans hears) (by simp)
  all_goals
    obtain ⟨w,waits,comes⟩ := (Option.any_eq_true ..).mp ends
    exact .inr ⟨w,waits,comes⟩

/-- Only a question starts the timer of an answer. -/
theorem asked_of_arms {w : Nat × Deferred} (arms : e.arms? .query op = some w) :
    ∃ token wanted within timeout, op = .ask token wanted within timeout ∧ e.stopped = false := by
  have unawaited : ∀ body, e.awaits? .query body = none := fun body => by
    cases body with
    | checkOut entity valid => cases valid <;> rfl
    | _ => rfl
  have unheard : (e.heard? op).bind (e.awaits? .query) = none := by
    cases e.heard? op <;> simp [unawaited]
  cases op
  case ask token wanted within timeout =>
    refine ⟨token,wanted,within,timeout,rfl,?_⟩
    by_contra stopped
    simp [arms?,stopped] at arms
  all_goals exact absurd (unheard.symm.trans arms) (by simp)

/-- Whether a question may be opened. -/
def Free (e : Engine) : Prop := e.stopped = false ∧ e.query = none

theorem Free.eq (free : e.Free) : (e.stopped || e.isQueryPending) = false := by
  simp [isQueryPending,free.1,free.2]

variable {token : String} {wanted : Group} {within : Distance} {timeout : Nat}

theorem Sound.ask_reply (sound : e.Sound) (free : e.Free) :
    (e.apply (.ask token wanted within timeout)).1 = .flag true := by
  rw [Engine.apply,sound.ask_accepted free.eq]

/-- A question begins with no replies, and its timer with it. -/
theorem Sound.opened (sound : e.Sound) (free : e.Free) (token : String) (wanted : Group)
    (within : Distance) (timeout : Nat) :
    (e.apply (.ask token wanted within timeout)).2.query = some ⟨replyTopic token,[]⟩ ∧
      (e.apply (.ask token wanted within timeout)).2.timers.waiting? .query =
        some (e.timers.now + timeout,.query (replyTopic token) within) ∧
      (e.apply (.ask token wanted within timeout)).2.completed = e.completed := by
  have idle := sound.query_none.mp free.2
  refine ⟨?_,?_,sound.completed_open (by simp [closing?,idle])⟩
  · rw [(sound.apply_moved _).query]
    simp [Engine.moved,free.eq]
  · refine sound.waits_armed idle ?_
    simp [arms?,free.1]

/-- A question is refused without any effect while another is open, and after the end. -/
theorem ask_refused (taken : (e.stopped || e.isQueryPending) = true) :
    e.apply (.ask token wanted within timeout) = (.flag false,e) := by
  simp [apply,ask,taken]

/-- A reply without an open question has no effect. -/
theorem reply_unasked {entity : Entity} (closed : e.isQueryPending = false)
    (heard : e.heard? op = some (.syncResponse entity)) : (e.apply op).2 = e := by
  have unasked : e.query = none := by simpa [isQueryPending] using closed
  have same : { e with query := none } = e := by rw [← unasked]
  rw [apply_heard heard,hearBody,collect,unasked]
  exact same

/-! ## Runs -/

/-- While it is open, a question collects the replies, and nothing is answered. -/
theorem Sound.query_never (sound : e.Sound) {q : Query} {w : Nat × Deferred}
    (asked : e.query = some q) (waits : e.timers.waiting? .query = some w) {ops : List Operation}
    (lasts : never (·.ends .query ·) e ops) :
    (e.after ops).query = some ⟨q.topic,q.replies ++ e.repliesIn ops⟩ ∧
      (e.after ops).timers.waiting? .query = some w ∧
      (e.after ops).completed = e.completed := by
  refine ⟨?_,sound.waits_on waits lasts,?_⟩
  · induction ops generalizing e q with
    | nil => simpa [repliesIn] using asked
    | cons op ops ih =>
      have waits' := sound.waits_on waits (show never (·.ends .query ·) e [op] from ⟨lasts.1,trivial⟩)
      have rest := ih (sound.apply op) (sound.query_lasting asked lasts.1) waits' lasts.2
      rw [after_cons,rest,repliesIn,List.append_assoc]
  · clear waits asked
    induction ops generalizing e with
    | nil => rfl
    | cons op ops ih =>
      exact (ih (sound.apply op) lasts.2).trans (sound.completed_open (closing?_lasts lasts.1))

/-- The open question is the old one or was opened by this operation. -/
theorem Sound.query_origin (sound : e.Sound) {q : Query} (asked : (e.apply op).2.query = some q) :
    (∃ p, e.query = some p ∧ q.topic = p.topic) ∨
      ∃ token, op.token? = some token ∧ q.topic = replyTopic token := by
  by_cases ends : e.ends .query op = true
  · rw [sound.query_ended ends] at asked
    cases asked
  have lasts := Bool.eq_false_iff.mpr ends
  cases before : e.query with
  | some p =>
    rw [sound.query_lasting before lasts] at asked
    cases asked
    exact .inl ⟨p,rfl,rfl⟩
  | none =>
    have idle := sound.query_none.mp before
    have armed : ∃ w, e.arms? .query op = some w := by
      have waits : (e.apply op).2.timers.waiting? .query ≠ none := fun idle => by
        rw [(sound.apply op).query_none.mpr idle] at asked
        cases asked
      rw [sound.waiting?_apply,lasts,idle] at waits
      simpa [Option.ne_none_iff_exists'] using waits
    obtain ⟨w,arms⟩ := armed
    obtain ⟨token,wanted,within,timeout,rfl,live⟩ := asked_of_arms arms
    rw [(sound.opened ⟨live,before⟩ ..).1] at asked
    cases asked
    exact .inr ⟨token,rfl,rfl⟩

/-- The answers under one topic. -/
def answersTo (e : Engine) (topic : String) : List Completion :=
  e.completed.filter (·.topic = topic)

/-- Neither the open question nor the operation is about the topic. -/
theorem Sound.answersTo_foreign (sound : e.Sound) {topic : String}
    (foreign : ∀ q, e.query = some q → q.topic ≠ topic)
    (fresh : ∀ token, op.token? = some token → replyTopic token ≠ topic) :
    (e.apply op).2.answersTo topic = e.answersTo topic ∧
      ∀ q, (e.apply op).2.query = some q → q.topic ≠ topic := by
  constructor
  · cases waits : e.timers.waiting? .query with
    | none => rw [answersTo,sound.completed_open (by simp [closing?,waits]),answersTo]
    | some w =>
      obtain ⟨d,task⟩ := w
      obtain ⟨q,within,asked,rfl⟩ := sound.asked waits
      by_cases comes : e.expires op .query d = true
      · rw [answersTo,(sound.closed asked waits comes).1,List.filter_append]
        simp [answersTo,foreign q asked]
      · have early : e.closing? op = none := by
          simp [closing?,waits,comes,Option.filter_some]
        rw [answersTo,sound.completed_open early,answersTo]
  · intro q asked
    rcases sound.query_origin asked with ⟨p,before,same⟩ | ⟨token,asks,same⟩
    · exact same ▸ foreign p before
    · exact same ▸ fresh token asks

theorem Sound.answersTo_after (sound : e.Sound) (token : String) (ops : List Operation)
    (foreign : ∀ q, e.query = some q → q.topic ≠ replyTopic token)
    (fresh : ∀ op ∈ ops, op.token? ≠ some token) :
    (e.after ops).answersTo (replyTopic token) = e.answersTo (replyTopic token) := by
  induction ops generalizing e with
  | nil => rfl
  | cons op ops ih =>
    have first : ∀ other, op.token? = some other → replyTopic other ≠ replyTopic token := by
      intro other asks same
      rw [replyTopic_injective same] at asks
      exact fresh op (List.mem_cons_self ..) asks
    obtain ⟨same,foreign⟩ := sound.answersTo_foreign foreign first
    exact (ih (sound.apply op) foreign fun op member =>
      fresh op (List.mem_cons_of_mem _ member)).trans same

theorem Sound.collecting (sound : e.Sound) (free : e.Free) {mid : List Operation}
    (lasts : never (·.ends .query ·) (e.apply (.ask token wanted within timeout)).2 mid) :
    let asked := (e.apply (.ask token wanted within timeout)).2
    (asked.after mid).query = some ⟨replyTopic token,asked.repliesIn mid⟩ ∧
      (asked.after mid).timers.waiting? .query =
        some (e.timers.now + timeout,.query (replyTopic token) within) ∧
      (asked.after mid).completed = e.completed := by
  obtain ⟨query,waits,completed⟩ := sound.opened free token wanted within timeout
  have later := (sound.apply _).query_never query waits lasts
  exact ⟨by simpa using later.1,later.2.1,later.2.2.trans completed⟩

/-- Giving up a reply channel ends listening to no other channel of the node. -/
theorem listensTo_unlisten (t : Transport) (token : String) {c : Channel}
    (other : c ∈ Channel.shared ∨ ∃ id, c = .entity id) :
    (t.unlisten (.reply (replyTopic token))).listensTo c = t.listensTo c := by
  have apart : c.name ≠ replyTopic token := by
    rcases other with shared | ⟨id,rfl⟩
    · exact replyTopic_ne_shared token shared
    · exact replyTopic_ne_entity token id
  rw [Bool.eq_iff_iff,Transport.listensTo,Transport.listensTo,List.contains_iff_mem,
    List.contains_iff_mem,Transport.unlisten,List.mem_filter]
  exact and_iff_left (decide_eq_true apart)

theorem Sound.answered (sound : e.Sound) {d : Nat}
    (asked : e.query = some ⟨replyTopic token,replies⟩)
    (waits : e.timers.waiting? .query = some (d,.query (replyTopic token) within))
    (comes : e.expires op .query d = true) :
    (e.apply op).2.completed = e.completed ++
        [⟨replyTopic token,replies ++ e.cache.filter (·.distance ≤ within)⟩] ∧
      (e.apply op).2.isQueryPending = false ∧
      (e.apply op).2.transport.topics = e.transport.topics.filter (· ≠ replyTopic token) ∧
      ∀ c, (c ∈ Channel.shared ∨ ∃ id, c = .entity id) →
        (e.apply op).2.transport.listensTo c = e.transport.listensTo c := by
  obtain ⟨completed,transport⟩ := sound.closed asked waits comes
  have ended := sound.query_ended (ends_expired waits comes)
  refine ⟨completed,by simp [isQueryPending,ended],by rw [transport]; rfl,fun c other => ?_⟩
  rw [transport]
  exact listensTo_unlisten e.transport token other

/-- What becomes of the questions of a node in a whole run. -/
structure Attended (e₀ : Engine) : Prop where
  /-- A question is open exactly while its timer waits. -/
  slot : ∀ ops, (e₀.after ops).isQueryPending = (e₀.after ops).timers.isPending .query
  accepted : ∀ ops token wanted within timeout, (e₀.after ops).Free →
    ((e₀.after ops).apply (.ask token wanted within timeout)).1 = .flag true
  /-- While another is open, and after the end, a question is refused and nothing changes. -/
  refused : ∀ ops token wanted within timeout,
    ((e₀.after ops).stopped || (e₀.after ops).isQueryPending) = true →
    (e₀.after ops).apply (.ask token wanted within timeout) = (.flag false,e₀.after ops)
  unasked : ∀ ops op entity, (e₀.after ops).isQueryPending = false →
    (e₀.after ops).heard? op = some (.syncResponse entity) →
    ((e₀.after ops).apply op).2 = e₀.after ops
  /-- While it is open, a question collects the replies in order, and nothing is answered. -/
  collecting : ∀ pre token wanted within timeout mid, (e₀.after pre).Free →
    let asked := e₀.after (pre ++ [.ask token wanted within timeout])
    never (·.ends .query ·) asked mid →
    (asked.after mid).query = some ⟨replyTopic token,asked.repliesIn mid⟩ ∧
    (asked.after mid).timers.waiting? .query =
      some ((e₀.after pre).timers.now + timeout,.query (replyTopic token) within) ∧
    (asked.after mid).completed = (e₀.after pre).completed
  /-- When its time comes, it is answered with the replies and the remembered beacons that are
  close enough; its channel is given up, and no other. -/
  answered : ∀ pre token wanted within timeout mid last, (e₀.after pre).Free →
    let asked := e₀.after (pre ++ [.ask token wanted within timeout])
    let e := asked.after mid
    never (·.ends .query ·) asked mid →
    e.expires last .query ((e₀.after pre).timers.now + timeout) = true →
    (e.apply last).2.completed = e.completed ++ [⟨replyTopic token,
      asked.repliesIn mid ++ e.cache.filter (·.distance ≤ within)⟩] ∧
    (e.apply last).2.isQueryPending = false ∧
    (e.apply last).2.transport.topics = e.transport.topics.filter (· ≠ replyTopic token) ∧
    ∀ c, (c ∈ Channel.shared ∨ ∃ id, c = .entity id) →
      (e.apply last).2.transport.listensTo c = e.transport.listensTo c
  /-- A question whose token is not used again is answered once, when its time comes, or never:
  it is still open, or the node came to its end first. -/
  once : ∀ pre token wanted within timeout post, (e₀.after pre).Free →
    (∀ op ∈ pre ++ post, op.token? ≠ some token) →
    let asked := e₀.after (pre ++ [.ask token wanted within timeout])
    let answers := (asked.after post).answersTo (replyTopic token)
    (never (·.ends .query ·) asked post ∧ answers = []) ∨
    ∃ mid last rest, post = mid ++ last :: rest ∧ never (·.ends .query ·) asked mid ∧
      (last = .stop ∧ answers = [] ∨
        (asked.after mid).expires last .query ((e₀.after pre).timers.now + timeout) = true ∧
        answers = [⟨replyTopic token,asked.repliesIn mid ++
          (asked.after mid).cache.filter (·.distance ≤ within)⟩])

theorem questions_attended {self : Entity} {config : Config}
    (started : start self config = .ok e) : Attended e := by
  have sound := start_sound started
  constructor
  case slot => exact fun ops => ((sound.after ops).isPending_query).symm
  case accepted => exact fun ops _ _ _ _ free => (sound.after ops).ask_reply free
  case refused => exact fun ops _ _ _ _ taken => ask_refused taken
  case unasked => exact fun ops op entity closed heard => reply_unasked closed heard
  case collecting =>
    intro pre token wanted within timeout mid free
    rw [after_concat]
    exact (sound.after pre).collecting free
  case answered =>
    intro pre token wanted within timeout mid last free
    rw [after_concat]
    intro asked e' lasts comes
    obtain ⟨query,waits,_⟩ := (sound.after pre).collecting free lasts
    exact (((sound.after pre).apply _).after mid).answered query waits comes
  case once =>
    intro pre token wanted within timeout post free fresh
    rw [after_concat]
    intro asked answers
    have sound' : asked.Sound := (sound.after pre).apply _
    have nothing : (e.after pre).answersTo (replyTopic token) = [] := by
      rw [sound.answersTo_after token pre (by simp [start_unasked started]) fun op member =>
        fresh op (List.mem_append_left _ member),answersTo,start_unanswered started]
      rfl
    have untold : ∀ f : Engine, f.completed = (e.after pre).completed →
        f.answersTo (replyTopic token) = [] := by
      intro f same
      rw [answersTo,same]
      exact nothing
    rcases never_or_first (·.ends .query ·) asked post with lasts | ⟨mid,last,rest,rfl,lasts,ends⟩
    · exact .inl ⟨lasts,untold _ ((sound.after pre).collecting free lasts).2.2⟩
    obtain ⟨query,waits,completed⟩ := (sound.after pre).collecting free lasts
    refine .inr ⟨mid,last,rest,rfl,lasts,?_⟩
    -- once the question is closed, later ones go by other topics
    have later : answers = ((asked.after mid).apply last).2.answersTo (replyTopic token) := by
      have closed := (sound'.after mid).query_ended ends
      have rest := ((sound'.after mid).apply last).answersTo_after token rest
        (by simp [closed]) fun op member => fresh op (by simp [member])
      rw [← rest]
      exact congrArg (·.answersTo (replyTopic token)) (after_append asked mid _)
    rcases ends_query ends with rfl | ⟨w,waits',comes⟩
    · refine .inl ⟨rfl,later.trans (untold _ ?_)⟩
      have open' : (asked.after mid).closing? .stop = none := by
        cases (asked.after mid).timers.waiting? .query <;> simp [closing?,Engine.expires]
      exact ((sound'.after mid).completed_open open').trans completed
    · obtain rfl := Option.some.inj (waits.symm.trans waits')
      refine .inr ⟨comes,later.trans ?_⟩
      have before : (asked.after mid).completed.filter (·.topic = replyTopic token) = [] :=
        untold _ completed
      rw [answersTo,((sound'.after mid).answered query waits comes).1,List.filter_append,before]
      simp [asked]

/-! ## A question that is answered -/

/-- A scan that finds one beacon. -/
def sights (meters : Float) : Operation := .scan [⟨.of "b:1:1",.ofFloat meters⟩]

/-- Somebody asks who is there. -/
def asking : Operation := .ask "Q0" (.everyone "all") .far 10000

def passer : Entity := .bare (.of "you") .device

/-- Half of the time goes by, and one peer replies. -/
def meanwhile : List Operation :=
  [.elapse 5000,.hear ⟨passer.id,replyTopic "Q0",.syncResponse passer⟩]

theorem questions_attended_start :
    ∃ e, start (.bare (.of "me") .device) .standard = .ok e ∧ Attended e ∧
      let asked := e.after [sights 1.5,asking]
      let replied := asked.after meanwhile
      (e.after [sights 1.5]).Free ∧ never (·.ends .query ·) asked meanwhile ∧
      replied.expires (.elapse 5000) .query ((e.after [sights 1.5]).timers.now + 10000) = true ∧
      replied.query = some ⟨replyTopic "Q0",[passer]⟩ ∧ replied.completed = [] ∧
      (replied.apply (.elapse 5000)).2.isQueryPending = false ∧
      (replied.apply (.elapse 5000)).2.completed =
        [⟨replyTopic "Q0",[passer,⟨.of "b:1:1",.beacon,.nextTo,[]⟩]⟩] := by
  have started : start (.bare (.of "me") .device) .standard = .ok _ := rfl
  have attended := questions_attended started
  have collecting := attended.collecting [sights 1.5] "Q0" (.everyone "all") .far 10000 meanwhile
  have answered := attended.answered [sights 1.5] "Q0" (.everyone "all") .far 10000 meanwhile
    (.elapse 5000)
  refine ⟨_,started,attended,?free,?lasts,?comes,(collecting ?free ?lasts).1,
    (collecting ?free ?lasts).2.2,(answered ?free ?lasts ?comes).2.1,(answered ?free ?lasts ?comes).1⟩
  case free => exact ⟨rfl,rfl⟩
  case lasts => exact ⟨by decide,by decide,trivial⟩
  case comes => decide

end Vicinity.Engine
