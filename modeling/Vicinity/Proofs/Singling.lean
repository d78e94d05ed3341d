import Vicinity.Proofs.Channel
import Vicinity.Proofs.Filter.Meaning
import Vicinity.Proofs.Handles
import Vicinity.Proofs.Matching

/-! The group around one participant. It is that of a device alone, but around a beacon it takes in
all the beacons below, which are others; so a distance that is watched from a beacon may be told of
any of them. Ids with no part left empty and equally many parts are told apart. -/
namespace Vicinity

namespace EntityId

variable {id other : EntityId}

/-- The id of a place right below that of an id. -/
def below (id : EntityId) : EntityId := .of (id.text ++ ":0")

/-- An id without an empty part between its colons. -/
def Regular (id : EntityId) : Prop := ∀ part ∈ Text.split ':' id.text.toList, part ≠ []

theorem settled_colon : Text.Settled ':' := by decide +kernel

theorem settled_zero : Text.Settled '0' := by decide +kernel

theorem below_text (id : EntityId) : id.below.text = id.text ++ ":0" := by
  have list : (id.text ++ ":0").toList = id.text.toList ++ [':','0'] := String.toList_append
  have trimmed : Text.Trimmed (id.text.toList ++ [':','0']) := by
    refine ⟨?_,by rw [List.getLast?_append]; rfl⟩
    cases head : id.text.toList with
    | nil => rfl
    | cons c cs =>
      have first := id.trimmed.1
      rw [head] at first
      exact first
  have settled : ∀ c ∈ id.text.toList ++ [':','0'], Text.Settled c := by
    intro c member
    rcases List.mem_append.mp member with own | more
    · exact id.settled c own
    · rcases List.mem_cons.mp more with rfl | zero
      · exact settled_colon
      · exact List.mem_singleton.mp zero ▸ settled_zero
  have same : Text.lower (Text.trim (id.text ++ ":0").toList) = (id.text ++ ":0").toList := by
    rw [list,Text.trim_of_trimmed trimmed,Text.lower,Text.lowerAfter_of_settled [] settled]
  exact (congrArg String.ofList same).trans String.ofList_toList

theorem below_tokens (id : EntityId) : id.below.tokens = id.tokens ++ [['0']] := by
  have list : (id.text ++ ":0").toList = id.text.toList ++ ':' :: ['0'] := String.toList_append
  rw [tokens,below_text,list,Filter.split_eq_splitOn,List.splitOn_append_cons_self,
    List.filter_append,tokens,Filter.split_eq_splitOn]
  rfl

theorem below_ne (id : EntityId) : id.below ≠ id := by
  intro same
  have tokens := below_tokens id
  rw [same] at tokens
  simpa using congrArg List.length tokens

theorem below_named (id : EntityId) : id.below.isEmpty = false := by
  refine Bool.eq_false_iff.mpr fun empty => ?_
  have text := String.isEmpty_iff.mp empty
  rw [below_text] at text
  exact absurd (String.append_eq_empty_iff.mp text).2 (by decide)

/-- An id is known by its parts if none is empty. -/
theorem Regular.ext (regular : Regular id) (regular' : Regular other)
    (same : id.tokens = other.tokens) : id = other := by
  have parts : ∀ {id : EntityId}, Regular id → id.tokens = id.text.toList.splitOn ':' := by
    intro id regular
    rw [tokens,Filter.split_eq_splitOn]
    refine List.filter_eq_self.mpr fun part member => ?_
    simpa using regular part (Filter.split_eq_splitOn .. ▸ member)
  rw [parts regular,parts regular'] at same
  have joined := congrArg [':'].intercalate same
  rw [List.intercalate_splitOn,List.intercalate_splitOn] at joined
  exact EntityId.ext (String.toList_injective joined)

end EntityId

namespace Group

variable {e x : Entity}

/-- Whom the group around one participant takes in. -/
structure Singles (e : Entity) : Prop where
  members : ∀ x, (single e).contains x = true ↔ x.type = e.type ∧ Names e.id x
  own : (single e).contains e = true
  /-- That of a device is the device alone. -/
  device : e.type = .device →
    ∀ x, (single e).contains x = true ↔ x.id = e.id ∧ x.type = e.type
  /-- That of a beacon has another beacon in it. -/
  others : e.type = .beacon → ∃ x : Entity, x.type = .beacon ∧ x.id.isEmpty = false ∧
    x.id ≠ e.id ∧ (single e).contains x = true
  /-- Of the regular ids with as many parts it has its own only. -/
  regular : ∀ x, e.id.Regular → x.id.Regular → x.id.tokens.length = e.id.tokens.length →
    ((single e).contains x = true ↔ x.id = e.id ∧ x.type = e.type)

theorem single_contains (named : e.id.isEmpty = false) :
    (single e).contains x = true ↔ x.type = e.type ∧ Names e.id x := by
  have id : (single e).entityId = some e.id := if_neg (Bool.eq_false_iff.mp named)
  rw [contains_iff]
  constructor
  · exact fun passes => ⟨passes.type e.type rfl,passes.id e.id id⟩
  · rintro ⟨type,names⟩
    refine ⟨fun _ given => ?_,fun _ given => ?_,nofun⟩
    · exact Option.some.inj (id.symm.trans given) ▸ names
    · exact type.trans (Option.some.inj given)

theorem singles (named : e.id.isEmpty = false) : Singles e := by
  have members := fun x => single_contains (x := x) named
  have device : ∀ x, e.type = .device →
      ((single e).contains x = true ↔ x.id = e.id ∧ x.type = e.type) := by
    intro x kind
    rw [members,and_comm]
    refine and_congr_left fun type => ?_
    rw [← idMatches_iff,idMatches_device (type.trans kind)]
    exact ⟨fun same => EntityId.ext same.symm,fun same => congrArg EntityId.text same.symm⟩
  have beacon : ∀ x, e.type = .beacon →
      ((single e).contains x = true ↔ x.type = e.type ∧ e.id.tokens <+: x.id.tokens) := by
    intro x kind
    rw [members]
    refine and_congr_right fun type => ?_
    rw [← idMatches_iff,idMatches_beacon (type.trans kind)]
  constructor
  case members => exact members
  case own =>
    cases kind : e.type with
    | device => exact (device e kind).mpr ⟨rfl,rfl⟩
    | beacon => exact (beacon e kind).mpr ⟨rfl,List.prefix_refl _⟩
  case device => exact fun kind x => device x kind
  case others =>
    intro kind
    have under : e.id.tokens <+: e.id.below.tokens := by
      rw [e.id.below_tokens]
      exact List.prefix_append ..
    exact ⟨.bare e.id.below .beacon,rfl,e.id.below_named,e.id.below_ne,
      (beacon _ kind).mpr ⟨kind.symm,under⟩⟩
  case regular =>
    intro x regular regular' length
    cases kind : e.type with
    | device => exact kind ▸ device x kind
    | beacon =>
      rw [beacon x kind,and_comm,kind]
      refine and_congr_left fun _ => ⟨fun above => ?_,fun same => same ▸ List.prefix_refl _⟩
      exact regular'.ext regular (above.eq_of_length length.symm).symm

end Group

namespace Engine

variable {e now begun : Engine} {e1 e2 : Entity} {d : Distance} {facts : List Fact} {t : Telling}

/-- The crossing of a geofence is not told as a distance. -/
theorem event?_observe {sub : Subscription} {center candidate : Entity} {radius seen : Distance}
    {n : Notice} (tells : now.event? (.observe sub center radius candidate seen) = some n) :
    n.payload ≠ .entity .proximityUpdate e1 e2 d := by
  obtain ⟨p,crosses,rfl⟩ := Option.map_eq_some_iff.mp tells
  generalize (Detected.observe _ _ _ _).1 = transition at crosses
  cases transition <;> cases crosses <;> nofun

theorem mem_acts_groups {event : Group → Option GroupEvent} {entity : Entity}
    {subs : List Subscription} {a : Act} {n : Notice}
    (follows : a ∈ subs.flatMap (groupActs event entity)) (tells : now.event? a = some n) :
    n.payload ≠ .entity .proximityUpdate e1 e2 d := by
  obtain ⟨sub,_,acts⟩ := List.mem_flatMap.mp follows
  obtain ⟨_,_,_,_,rfl⟩ := mem_groupActs acts
  cases tells
  nofun

/-- A distance is told to those who watch it, and to nobody else. -/
theorem mem_acts_distance {fact : Fact} {a : Act} {n : Notice} (follows : a ∈ begun.acts fact)
    (tells : now.event? a = some n) (about : n.payload = .entity .proximityUpdate e1 e2 d) :
    ∃ sub ∈ begun.proximity, n.subscription = some sub.id ∧
      ∃ tracked other, sub.watch = .proximity tracked other ∧ pairs tracked other e1 e2 = true := by
  cases fact with
  | apart x y seen =>
    simp only [acts] at follows
    split at follows
    · cases follows
    obtain ⟨⟨id,watch⟩,registered,follows⟩ := List.mem_flatMap.mp follows
    cases watch with
    | proximity tracked other =>
      rw [apartActs,List.mem_ite_nil_right,List.mem_singleton] at follows
      obtain ⟨paired,rfl⟩ := follows
      cases tells
      cases about
      exact ⟨_,registered,rfl,tracked,other,rfl,paired⟩
    | _ => cases follows
  | sees seer beacons =>
    obtain ⟨sub,_,acts⟩ := List.mem_flatMap.mp follows
    obtain ⟨_,_,_,_,_,_,rfl⟩ := mem_seesActs acts
    exact absurd about (event?_observe tells)
  | around x y seen =>
    obtain ⟨sub,_,acts⟩ := List.mem_flatMap.mp follows
    obtain ⟨_,_,_,_,_,_,rfl⟩ := mem_aroundActs acts
    exact absurd about (event?_observe tells)
  | changed entity old => exact absurd about (mem_acts_groups follows tells)
  | arrived entity =>
    simp only [acts] at follows
    split at follows
    · cases follows
    · exact absurd about (mem_acts_groups follows tells)
  | left entity => exact absurd about (mem_acts_groups follows tells)

/-- Distances that are watched when an evaluation begins were watched before. -/
theorem tellings_fewer (fewer : Fewer begun e) (member : t ∈ e.tellings facts) :
    Fewer begun t.begun := by
  induction facts generalizing e with
  | nil => cases member
  | cons fact facts ih =>
    rcases List.mem_append.mp member with first | rest
    · obtain ⟨rfl,_⟩ := mem_tellingsIn first
      exact fewer
    · exact ih ((fewer_watches_last begun).performAll fewer _) rest

/-- A call asked for the distance of two participants under an id. -/
def Asks (ops : List Operation) (id : SubscriptionId) (e1 e2 : Entity) : Prop :=
  ∃ anchor others, .trackDistance id anchor others ∈ ops ∧
    pairs (.single anchor) others e1 e2 = true

theorem asks_of_watches {ops : List Operation} (enlisted : Enlisted ops e) {sub : Subscription}
    {tracked other : Group} (registered : sub ∈ e.proximity)
    (watch : sub.watch = .proximity tracked other) (paired : pairs tracked other e1 e2 = true) :
    Asks ops sub.id e1 e2 := by
  obtain ⟨op,called,makes⟩ := List.mem_filterMap.mp (enlisted.proximity.mem registered)
  cases op <;> cases makes <;> cases watch
  exact ⟨_,_,called,paired⟩

theorem start_untold {self : Entity} {config : Config} (started : start self config = .ok e) :
    e.evaluations = [] := by
  rw [start] at started
  split at started <;> cases started
  rfl

/-- All distances that a node tells in a run were asked for. -/
theorem distances_asked {self : Entity} {config : Config} {node : Engine}
    (started : start self config = .ok node) (ops : List Operation) {n : Notice}
    (told : n ∈ (node.after ops).evaluations)
    (about : n.payload = .entity .proximityUpdate e1 e2 d) :
    ∃ id, n.subscription = some id ∧ Asks ops id e1 e2 := by
  induction ops using List.reverseRecOn with
  | nil =>
    rw [after_nil,start_untold started] at told
    cases told
  | append_singleton ops op ih =>
    rw [after_concat,evaluations_apply] at told
    have later : ∀ {id}, Asks ops id e1 e2 → Asks (ops ++ [op]) id e1 e2 :=
      fun ⟨anchor,others,called,paired⟩ =>
        ⟨anchor,others,List.mem_append_left _ called,paired⟩
    rcases List.mem_append.mp told with before | now
    · obtain ⟨id,named,asks⟩ := ih before
      exact ⟨id,named,later asks⟩
    · obtain ⟨t,tells,rfl⟩ := List.mem_map.mp now
      have fewer := tellings_fewer (.refl _) tells
      obtain ⟨fact,_,_,member⟩ := mem_tellings tells
      obtain ⟨_,_,_,a,follows,offered⟩ := mem_tellingsIn member
      obtain ⟨sub,registered,named,tracked,other,watch,paired⟩ :=
        mem_acts_distance follows (event?_of_offered offered) about
      exact ⟨sub.id,named,later (asks_of_watches (enlisted_after started ops)
        (fewer.proximity.mem registered) watch paired)⟩

/-- A distance that is watched from a participant is told of pairs of which one is in the group around
it. That is the participant itself if it is a device; around a beacon there are others. -/
theorem distances_from_anchor {self : Entity} {config : Config} {node : Engine}
    (started : start self config = .ok node) {ops : List Operation} (given : GivenOnce ops)
    {anchor : Entity} (named : anchor.id.isEmpty = false) :
    Group.Singles anchor ∧ ∀ id others, .trackDistance id anchor others ∈ ops →
      ∀ n ∈ (node.after ops).delivered, n.subscription = some id →
        ∀ e1 e2 d, n.payload = .entity .proximityUpdate e1 e2 d →
          (Group.single anchor).contains e1 = true ∧ others.contains e2 = true ∨
          (Group.single anchor).contains e2 = true ∧ others.contains e1 = true := by
  refine ⟨Group.singles named,fun id others called n told own e1 e2 d about => ?_⟩
  have evaluated : n ∈ (node.after ops).evaluations :=
    List.mem_filter.mpr ⟨told,by rw [about]; rfl⟩
  obtain ⟨id',own',anchor',others',called',paired⟩ := distances_asked started ops evaluated about
  obtain rfl : id' = id := Option.some.inj (own'.symm.trans own)
  have request : ∀ {anchor others}, .trackDistance id' anchor others ∈ ops →
      ⟨id',.proximity (.single anchor) others⟩ ∈ requests ops :=
    fun called => List.mem_filterMap.mpr ⟨_,called,rfl⟩
  have same := List.inj_on_of_nodup_map given.calls (request called') (request called) rfl
  obtain ⟨group,other⟩ := Watch.proximity.inj (Subscription.mk.inj same).2
  rw [group,other] at paired
  simpa [pairs] using paired

/-- A beacon, and one below it. -/
def gate : Entity := .bare (.of "b:1") .beacon

def turnstile : Entity := .bare (.of "b:1:2") .beacon

/-- An application watches how far everybody is from the beacon, and the other one is ranged. -/
def passage : List Operation :=
  [.setSink (some .recorder),.trackDistance (.ofNat 1) gate (.everyone "all"),
    .scan [⟨turnstile.id,.ofFloat 1.0⟩]]

theorem passage_given : GivenOnce passage where
  calls := List.nodup_singleton _
  replies sink first k listens follows := by
    rcases List.mem_cons.mp listens with same | other
    · cases same
      cases follows
    · simp at other

theorem distances_from_anchor_gate : ∃ node, start watcher .standard = .ok node ∧
    GivenOnce passage ∧ gate.id.isEmpty = false ∧ Group.Singles gate ∧
    ∀ n ∈ (node.after passage).delivered, n.subscription = some (.ofNat 1) →
      ∀ e1 e2 d, n.payload = .entity .proximityUpdate e1 e2 d →
        (Group.single gate).contains e1 = true ∧ (Group.everyone "all").contains e2 = true ∨
        (Group.single gate).contains e2 = true ∧ (Group.everyone "all").contains e1 = true := by
  have started : start watcher .standard = .ok _ := rfl
  have named : gate.id.isEmpty = false := by decide
  obtain ⟨singles,told⟩ := distances_from_anchor started passage_given named
  exact ⟨_,started,passage_given,named,singles,told _ _ (List.mem_of_getElem? (i := 1) rfl)⟩

/-- The group around one beacon has another one in it, and of that one's distance the application is
told, though neither of the pair is the beacon from which it watches. -/
theorem distance_from_another : (Group.single gate).contains turnstile = true ∧
    turnstile.id ≠ gate.id ∧ ∃ node, start watcher .standard = .ok node ∧
      ∃ n ∈ (node.after passage).delivered, n.subscription = some (.ofNat 1) ∧
        ∃ e1 e2 d, n.payload = .entity .proximityUpdate e1 e2 d ∧
          e1.id ≠ gate.id ∧ e2.id ≠ gate.id := by
  refine ⟨by decide,by decide,_,rfl,_,List.mem_singleton.mpr rfl,rfl,_,_,_,rfl,?_,?_⟩
  · decide
  · decide

end Engine

end Vicinity
