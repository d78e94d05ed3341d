import Vicinity.Proofs.Echo
import Vicinity.Proofs.Engine.Deeds
import Vicinity.Proofs.SelfUpdate

/-! The normal form of names. A text that spells a participant is read once and for all: to read it
again changes nothing, though what is lowered in one pass is the context of the next. No capital is
left in it, so the private channel of a participant has the name of no channel that a node makes. -/
namespace Vicinity

open Text

/-! ## Texts in normal form -/

/-- The capitals of the Latin alphabet all have a lower case. -/
theorem capital_unsettled {c : Char} (capital : c.isUpper = true) : ¬ Settled c := by
  have each : ∀ n : Fin 26, ¬ Settled (Char.ofNat (65 + n.val)) := by decide +kernel
  have range : 'A' ≤ c ∧ c ≤ 'Z' := of_decide_eq_true capital
  have bounds : 65 ≤ c.toNat ∧ c.toNat ≤ 90 := range
  have here := each ⟨c.toNat - 65,by omega⟩
  rwa [Nat.add_sub_cancel' bounds.1,Char.ofNat_toNat] at here

/-- A text is left as it is exactly if it is trimmed and no letter in it has a lower case. -/
theorem EntityId.of_text_eq (s : String) :
    (EntityId.of s).text = s ↔ Trimmed s.toList ∧ ∀ c ∈ s.toList, Settled c := by
  constructor
  · intro kept
    have trimmed := (EntityId.of s).trimmed
    have settled := (EntityId.of s).settled
    rw [kept] at trimmed settled
    exact ⟨trimmed,settled⟩
  · rintro ⟨trimmed,settled⟩
    have unchanged : lower (trim s.toList) = s.toList := by
      rw [trim_of_trimmed trimmed]
      exact lowerAfter_of_settled [] settled
    exact (congrArg String.ofList unchanged).trans String.ofList_toList

/-- A name that ends like the channel for replies is not in normal form. -/
theorem EntityId.not_topic (id : EntityId) : ¬ "-reqTopic".toList <:+ id.text.toList :=
  fun ends => capital_T (id.settled 'T' (ends.subset (by decide)))

/-! ## Names that a node makes -/

namespace Engine

variable {e f : Engine} {op : Operation} {cs : List Channel}

/-- The channels whose names a node makes by itself: those that all nodes share, and one for the
replies to each question. -/
inductive Made : Channel → Prop where
  | shared {c : Channel} (member : c ∈ Channel.shared) : Made c
  | reply (token : String) : Made (.reply (replyTopic token))

/-- No participant has the name of a channel that a node makes. -/
theorem Made.apart {c : Channel} (made : Made c) (id : EntityId) : c.name ≠ id.text := by
  cases made with
  | shared member =>
    intro same
    have settled := same ▸ id.settled
    simp only [Channel.shared,List.mem_cons,List.not_mem_nil,or_false] at member
    rcases member with rfl | rfl | rfl
    · exact capital_unsettled rfl (settled 'B' (by decide))
    · exact capital_unsettled rfl (settled 'P' (by decide))
    · exact capital_unsettled rfl (settled 'G' (by decide))
  | reply token => exact fun same => replyTopic_ne_entity token id same.symm

theorem tunes_made {id : EntityId} {c : Channel} (member : c ∈ op.tunes id) :
    Made c ∨ c = .entity id := by
  have session : c ∈ Channel.shared ++ [.entity id] → Made c ∨ c = .entity id := fun member =>
    (List.mem_append.mp member).imp .shared List.mem_singleton.mp
  cases op
  case connected => exact session member
  case updateSelf => exact session member
  case enterGhost => exact session member
  case leaveGhost => exact session member
  case ask token _ _ _ =>
    obtain rfl := List.mem_singleton.mp member
    exact .inl (.reply token)
  all_goals cases member

/-- All that is listened to under `after` was listened to before, or is one of the channels. -/
structure Gains (cs : List Channel) (before after : Transport) : Prop where
  origin : ∀ n ∈ after.topics, n ∈ before.topics ∨ n ∈ cs.map Channel.name

theorem Gains.less {t u : Transport} (less : u.topics ⊆ t.topics) : Gains cs t u :=
  ⟨fun _ heard => .inl (less heard)⟩

theorem Gains.refl (t : Transport) : Gains cs t t := .less (List.Subset.refl _)

theorem Gains.trans {t u v : Transport} (first : Gains cs t u) (second : Gains cs u v) :
    Gains cs t v :=
  ⟨fun n heard => (second.origin n heard).elim (first.origin n) .inr⟩

theorem Deed.gains (deed : Deed op e f) :
    Gains (op.tunes e.self.id) e.transport f.transport := by
  cases deed with
  | listen c tunes =>
    rw [Engine.listen,Transport.listen]
    split
    next t listened =>
      split at listened
      · cases listened
      · cases listened
        refine ⟨fun n heard => ?_⟩
        rcases (Transport.mem_insertTopic ..).mp heard with rfl | old
        · exact .inr (List.mem_map_of_mem tunes)
        · exact .inl old
    next => exact .refl _
  | renew new announce _ tunes =>
    refine ⟨fun n heard => .inr ?_⟩
    rw [tunes]
    exact (Transport.mem_topicsOf ..).mp heard
  | close d =>
    cases d with
    | departure entity => exact .refl _
    | query topic within =>
      rw [Engine.close]
      cases e.query with
      | none => exact .refl _
      | some q => exact .less fun _ heard => List.mem_of_mem_filter heard
  | rewire t fewer => exact .less fewer
  | _ => exact .less (List.Subset.refl _)

theorem Deeds.gains (deeds : Deeds op e f) :
    Gains (op.tunes e.self.id) e.transport f.transport := by
  induction deeds with
  | refl => exact .refl _
  | tail before deed ih => exact ih.trans (Deeds.id before ▸ deed.gains)

theorem apply_gains (e : Engine) (op : Operation) :
    Gains (op.tunes e.self.id) e.transport (e.apply op).2.transport := by
  rw [(apply_aside e op).transport]
  exact (surroundings_deeds e op).gains

/-- Each name that a node listens to is its own, or that of a channel that it made. -/
theorem heard_made {self : Entity} {config : Config} (started : start self config = .ok e)
    (ops : List Operation) {n : String} (heard : n ∈ (e.after ops).transport.topics) :
    n = self.id.text ∨ ∃ c, Made c ∧ n = c.name := by
  induction ops using List.reverseRecOn with
  | nil =>
    have silent : e.transport.topics = [] := by
      rw [start] at started
      split at started <;> cases started
      rfl
    exact absurd (silent ▸ heard) List.not_mem_nil
  | append_singleton ops op ih =>
    rw [after_concat] at heard
    rcases (apply_gains _ op).origin n heard with old | gained
    · exact ih old
    · obtain ⟨c,tuned,rfl⟩ := List.mem_map.mp gained
      rw [id_after,start_self started] at tuned
      rcases tunes_made tuned with made | rfl
      · exact .inr ⟨c,made,rfl⟩
      · exact .inl rfl

/-- Whatever a node publishes under the name of a participant is meant for that participant, or is
the reply to somebody who asked for replies under this name. -/
theorem published_apart {self : Entity} {config : Config} (started : start self config = .ok e)
    (ops : List Operation) {c : Channel} {m : Message}
    (published : (c,m) ∈ (e.after ops).transport.published) {id : EntityId}
    (same : c.name = id.text) :
    c = .entity id ∨ c = .reply id.text ∧ ∃ op ∈ ops, op.Brings id.text := by
  have sound := start_sound started
  have origin := sound.published_origin ops published
  rw [start_published started] at origin
  obtain ⟨pre,op,post,rfl,news⟩ := origin.resolve_left List.not_mem_nil
  have routed := (sound.after pre).news_routed news
  have apart : ∀ c' ∈ Channel.shared, c ≠ c' := by
    rintro _ member rfl
    exact (Made.shared member).apart id same
  cases said : m.body <;> rw [said] at routed
  case checkIn => exact absurd routed (apart _ (by decide))
  case checkOut => exact absurd routed (apart _ (by decide))
  case syncRequest => exact absurd routed (apart _ (by decide))
  case beaconReport => exact absurd routed (apart _ (by decide))
  case propertiesUpdate => exact absurd routed (apart _ (by decide))
  case proximityUpdate first second within =>
    refine .inl (routed.trans (congrArg Channel.entity (EntityId.ext ?_)))
    rw [← same,routed,Channel.name]
  case syncResponse entity =>
    obtain ⟨topic,rfl,brings⟩ := routed
    obtain rfl : topic = id.text := same
    exact .inr ⟨rfl,op,by simp,brings⟩

/-- What holds of the id that a text spells, and of its name on the network. -/
structure Normal (s : String) (id : EntityId) : Prop where
  again : .of id.text = id
  trimmed : Trimmed id.text.toList
  lowered : ∀ c ∈ id.text.toList, c.isUpper = false
  /-- Nothing is changed that need not be. -/
  kept : id.text = s ↔ Trimmed s.toList ∧ ∀ c ∈ s.toList, Settled c
  shared : id.text ≠ "BROADCAST" ∧ id.text ≠ "PROXIMITY" ∧ id.text ≠ "GROUP"
  topic : ¬ "-reqTopic".toList <:+ id.text.toList
  /-- The name of the private channel is not the name of any channel that a node makes. -/
  apart : ∀ c, Made c → c.name ≠ (Channel.entity id).name
  /-- Under this name only the participant itself listens. -/
  heard : ∀ {self : Entity} {config : Config} {e : Engine}, start self config = .ok e →
    ∀ ops, (e.after ops).transport.listensTo (.entity id) = true → id = self.id
  /-- Under this name a node speaks to the participant alone, unless somebody wants it to. -/
  spoken : ∀ {self : Entity} {config : Config} {e : Engine}, start self config = .ok e →
    ∀ ops, (∀ op ∈ ops, ¬ op.Brings id.text) → ∀ c m,
      (c,m) ∈ (e.after ops).transport.published → c.name = id.text → c = .entity id

/-- Every text spells an id in normal form, whose name nothing else on the network has. -/
theorem spelled_normal (s : String) : Normal s (.of s) := by
  have made : ∀ c, Made c → c.name ≠ (EntityId.of s).text := fun c made => made.apart _
  constructor
  case again => exact EntityId.of_text _
  case trimmed => exact EntityId.trimmed _
  case lowered =>
    exact fun c member => Bool.eq_false_iff.mpr fun capital =>
      capital_unsettled capital (EntityId.settled _ c member)
  case kept => exact EntityId.of_text_eq s
  case shared =>
    exact ⟨(made .broadcast (.shared (by decide))).symm,
      (made .proximity (.shared (by decide))).symm,(made .group (.shared (by decide))).symm⟩
  case topic => exact EntityId.not_topic _
  case apart => exact made
  case heard =>
    intro self config e started ops listens
    rcases heard_made started ops (List.contains_iff_mem.mp listens) with own | ⟨c,isMade,same⟩
    · exact EntityId.ext own
    · exact absurd same.symm (made c isMade)
  case spoken =>
    intro self config e started ops unasked c m published same
    refine (published_apart started ops published same).resolve_right ?_
    rintro ⟨_,op,member,brings⟩
    exact unasked op member brings

end Engine

end Vicinity
