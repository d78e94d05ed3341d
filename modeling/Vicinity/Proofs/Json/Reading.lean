import Vicinity.Proofs.Json.Trees

/-! What a reading makes of a tree. A plain tree has integers for numbers and nests no deeper than
a form allows; a value that is read from it is in order, integral and no deeper. A decoder of
records hands on what the decoders of its fields establish. -/
namespace Vicinity.Json

open Node

section

variable {ε α β γ : Type} {g : α → Except ε β} {xs : List α} {ys : List β}

theorem mem_of_mapM (read : xs.mapM g = .ok ys) : ∀ y ∈ ys, ∃ x ∈ xs, g x = .ok y := by
  induction xs generalizing ys with
  | nil =>
    obtain rfl := pure_eq_ok.mp read
    exact nofun
  | cons x xs ih =>
    rw [List.mapM_cons] at read
    obtain ⟨y,first,read⟩ := bind_eq_ok.mp read
    obtain ⟨ys,rest,read⟩ := bind_eq_ok.mp read
    obtain rfl := pure_eq_ok.mp read
    intro z member
    rcases List.mem_cons.mp member with rfl | member
    · exact ⟨x,List.mem_cons_self,first⟩
    · obtain ⟨x,inside,same⟩ := ih rest z member
      exact ⟨x,List.mem_cons_of_mem _ inside,same⟩

theorem ok_of_mapM (read : xs.mapM g = .ok ys) : ∀ x ∈ xs, ∃ y, g x = .ok y := by
  induction xs generalizing ys with
  | nil => exact nofun
  | cons x xs ih =>
    rw [List.mapM_cons] at read
    obtain ⟨y,first,read⟩ := bind_eq_ok.mp read
    obtain ⟨ys,rest,_⟩ := bind_eq_ok.mp read
    intro z member
    rcases List.mem_cons.mp member with rfl | member
    · exact ⟨y,first⟩
    · exact ih rest z member

theorem mapM_map_eq {h : γ → α} {k : γ → β} {zs : List γ}
    (each : ∀ z ∈ zs, g (h z) = .ok (k z)) : (zs.map h).mapM g = .ok (zs.map k) := by
  induction zs with
  | nil => rfl
  | cons z zs ih =>
    rw [List.map_cons,List.mapM_cons]
    exact bind_eq_ok.mpr ⟨k z,each z List.mem_cons_self,bind_eq_ok.mpr
      ⟨zs.map k,ih fun z member => each z (List.mem_cons_of_mem _ member),rfl⟩⟩

end

theorem toNodes_eq_map (xs : List Json) : toNodes xs = xs.map toNode := by
  induction xs with
  | nil => rfl
  | cons x xs ih => rw [toNodes,ih,List.map_cons]

theorem jsonItems_eq_mapM (f : Form) (ns : List Node) : jsonItems f ns = ns.mapM (Node.json f) := by
  induction ns with
  | nil => rfl
  | cons n ns ih => rw [jsonItems,ih,List.mapM_cons]

/-- One member of an object in a reading. -/
def jsonMember (f : Form) (m : Option String × Node) : Except Defect (String × Json) := do
  let k ← present m.1
  let j ← m.2.json f
  return (k,j)

theorem jsonMembers_eq_mapM (f : Form) (ms : List (Option String × Node)) :
    jsonMembers f ms = ms.mapM (jsonMember f) := by
  induction ms with
  | nil => rfl
  | cons m ms ih =>
    rw [jsonMembers,ih,List.mapM_cons,jsonMember]
    simp only [bind_assoc,pure_bind]

variable {f g : Form} {n : Node} {j : Json} {d : Nat}

/-! ## Plain trees -/

/-- A tree whose numbers are integers in range and that nests as deep as a form allows. -/
inductive Node.Plain : Form → Node → Prop
  | null {f : Form} : Plain f .null
  | bool {f : Form} {b : Bool} : Plain f (.bool b)
  | num {f : Form} {i : Int} (fits : Number.inRange i) : Plain f (.num (some (.int i)))
  | str {f : Form} {s : Option String} : Plain f (.str s)
  | arr {f : Form} {items : List Node} {closed : Bool} (room : f.Fits 1)
      (inside : ∀ n ∈ items, Plain f.inner n) : Plain f (.arr items closed)
  | obj {f : Form} {ms : List (Option String × Node)} {closed : Bool} (room : f.Fits 1)
      (inside : ∀ m ∈ ms, Plain f.inner m.2) : Plain f (.obj ms closed)

/-- A value that its text preserves, where it is read in a form. -/
structure Tidy (f : Form) (j : Json) : Prop where
  sorted : j.Ordered
  integral : j.Integral
  shallow : f.Fits j.depth

theorem Form.fits_depthItems {xs : List Json} :
    f.Fits (depthItems xs) ↔ ∀ x ∈ xs, f.Fits x.depth := by
  simp only [Fits,depthItems_le]
  exact ⟨fun all x member n room => all n room x member,
    fun all n room x member => all x member n room⟩

theorem Form.fits_depthMembers {ms : Members} :
    f.Fits (depthMembers ms) ↔ ∀ m ∈ ms, f.Fits m.2.depth := by
  simp only [Fits,depthMembers_le]
  exact ⟨fun all m member n room => all n room m member,
    fun all n room m member => all m member n room⟩

theorem tidy_arr {xs : List Json} : Tidy f (.arr xs) ↔ f.Fits 1 ∧ ∀ x ∈ xs, Tidy f.inner x := by
  constructor
  · rintro ⟨sorted,integral,shallow⟩
    obtain ⟨room,inside⟩ := Form.fits_succ.mp shallow
    exact ⟨room,fun x member => ⟨ordered_arr.mp sorted x member,integral_arr.mp integral x member,
      Form.fits_depthItems.mp inside x member⟩⟩
  · rintro ⟨room,inside⟩
    exact ⟨ordered_arr.mpr fun x member => (inside x member).sorted,
      integral_arr.mpr fun x member => (inside x member).integral,
      Form.fits_succ.mpr ⟨room,Form.fits_depthItems.mpr fun x member => (inside x member).shallow⟩⟩

theorem tidy_obj {ms : Members} :
    Tidy f (.obj ms) ↔ f.Fits 1 ∧ ms.Ascending ∧ ∀ m ∈ ms, Tidy f.inner m.2 := by
  constructor
  · rintro ⟨sorted,integral,shallow⟩
    obtain ⟨room,inside⟩ := Form.fits_succ.mp shallow
    obtain ⟨ascending,sorted⟩ := ordered_obj.mp sorted
    exact ⟨room,ascending,fun m member => ⟨sorted m member,integral_obj.mp integral m member,
      Form.fits_depthMembers.mp inside m member⟩⟩
  · rintro ⟨room,ascending,inside⟩
    exact ⟨ordered_obj.mpr ⟨ascending,fun m member => (inside m member).sorted⟩,
      integral_obj.mpr fun m member => (inside m member).integral,
      Form.fits_succ.mpr ⟨room,Form.fits_depthMembers.mpr fun m member =>
        (inside m member).shallow⟩⟩

theorem tidy_empty (room : f.Fits 1) : Tidy f (.obj []) :=
  tidy_obj.mpr ⟨room,List.Pairwise.nil,nofun⟩

/-- An object of one member. -/
theorem tidy_single {key : String} {value : Json} :
    Tidy f (.obj [(key,value)]) ↔ f.Fits 1 ∧ Tidy f.inner value := by
  rw [tidy_obj,List.forall_mem_singleton]
  exact and_congr_right fun _ => and_iff_right (Members.ascending_single key value)

@[simp] theorem tidy_str (s : String) : Tidy f (.str s) := ⟨trivial,trivial,Form.fits_zero⟩

@[simp] theorem tidy_bool (b : Bool) : Tidy f (.bool b) := ⟨trivial,trivial,Form.fits_zero⟩

theorem jsonMember_eq_ok {m : Option String × Node} {p : String × Json} :
    jsonMember f m = .ok p ↔ m.1 = some p.1 ∧ m.2.json f = .ok p.2 := by
  simp only [jsonMember,bind_eq_ok,present_eq_ok,pure_eq_ok]
  constructor
  · rintro ⟨k,key,j,value,rfl⟩
    exact ⟨key,value⟩
  · rintro ⟨key,value⟩
    exact ⟨p.1,key,p.2,value,rfl⟩

/-- An array is read item by item. -/
theorem json_arr_eq_ok {items : List Node} {closed : Bool} : (Node.arr items closed).json f = .ok j ↔
    f.Fits 1 ∧ closed = true ∧ ∃ xs, items.mapM (Node.json f.inner) = .ok xs ∧ .arr xs = j := by
  simp only [Node.json,bind_eq_ok,Form.enter_eq_ok,require_eq_ok,pure_eq_ok,jsonItems_eq_mapM]
  constructor
  · rintro ⟨_,⟨room,rfl⟩,xs,read,_,closed,same⟩
    exact ⟨room,closed,xs,read,same⟩
  · rintro ⟨room,closed,xs,read,same⟩
    exact ⟨f.inner,⟨room,rfl⟩,xs,read,(),closed,same⟩

/-- The members of an object are gathered as they are read. -/
theorem json_obj_eq_ok {ms : List (Option String × Node)} {closed : Bool} :
    (Node.obj ms closed).json f = .ok j ↔
      f.Fits 1 ∧ closed = true ∧ ∃ ps, ms.mapM (jsonMember f.inner) = .ok ps ∧ object ps = j := by
  simp only [Node.json,bind_eq_ok,Form.enter_eq_ok,require_eq_ok,pure_eq_ok,jsonMembers_eq_mapM]
  constructor
  · rintro ⟨_,⟨room,rfl⟩,ps,read,_,closed,same⟩
    exact ⟨room,closed,ps,read,same⟩
  · rintro ⟨room,closed,ps,read,same⟩
    exact ⟨f.inner,⟨room,rfl⟩,ps,read,(),closed,same⟩

/-- What is read from a plain tree its text preserves. -/
theorem Node.Plain.tidy (plain : Plain f n) (read : n.json g = .ok j) : Tidy f j := by
  induction plain generalizing g j with
  | null =>
    obtain rfl := pure_eq_ok.mp read
    exact ⟨trivial,trivial,Form.fits_zero⟩
  | bool =>
    obtain rfl := pure_eq_ok.mp read
    exact ⟨trivial,trivial,Form.fits_zero⟩
  | num fits =>
    obtain rfl := pure_eq_ok.mp read
    exact ⟨trivial,fits,Form.fits_zero⟩
  | str =>
    obtain ⟨s,_,read⟩ := bind_eq_ok.mp read
    obtain rfl := pure_eq_ok.mp read
    exact ⟨trivial,trivial,Form.fits_zero⟩
  | arr room _ ih =>
    obtain ⟨_,_,xs,items,rfl⟩ := json_arr_eq_ok.mp read
    refine tidy_arr.mpr ⟨room,fun x member => ?_⟩
    obtain ⟨n,inside,read⟩ := mem_of_mapM items x member
    exact ih n inside read
  | obj room _ ih =>
    obtain ⟨_,_,ps,members,rfl⟩ := json_obj_eq_ok.mp read
    refine tidy_obj.mpr ⟨room,Members.ascending_ofList ps,fun p member => ?_⟩
    obtain ⟨m,inside,read⟩ := mem_of_mapM members p (Members.mem_ofList member)
    exact ih m inside (jsonMember_eq_ok.mp read).2

/-- A tree that is read through nests no deeper than the form of the reading allows. -/
theorem Node.Plain.of_json (plain : Plain g n) (read : n.json f = .ok j) : Plain f n := by
  induction plain generalizing f j with
  | null => exact .null
  | bool => exact .bool
  | num fits => exact .num fits
  | str => exact .str
  | arr _ _ ih =>
    obtain ⟨room,_,xs,items,_⟩ := json_arr_eq_ok.mp read
    refine .arr room fun n member => ?_
    obtain ⟨x,read⟩ := ok_of_mapM items n member
    exact ih n member read
  | obj _ _ ih =>
    obtain ⟨room,_,ps,members,_⟩ := json_obj_eq_ok.mp read
    refine .obj room fun m member => ?_
    obtain ⟨p,read⟩ := ok_of_mapM members m member
    exact ih m member (jsonMember_eq_ok.mp read).2

theorem Tidy.again (tidy : Tidy f j) : Tidy .again j := ⟨tidy.sorted,tidy.integral,nofun⟩

theorem hold_toNode (tidy : Tidy f j) : j.toNode.hold f = .ok () :=
  bind_eq_ok.mpr ⟨j,json_toNode j tidy.sorted tidy.shallow,rfl⟩

/-! ## Trees in the making -/

namespace Node

def Frame.Plain : Frame → Prop
  | .arr items => ∀ n ∈ items, Node.Plain .value n
  | .obj ms _ => ∀ m ∈ ms, Node.Plain .value m.2

theorem Frame.Plain.close {fr : Frame} (plain : fr.Plain) (closed : Bool) :
    Node.Plain .value (Builder.Frame.close closed fr) := by
  cases fr with
  | arr items => exact .arr nofun fun n member => plain n (List.mem_reverse.mp member)
  | obj ms key => exact .obj nofun fun m member => plain m (List.mem_reverse.mp member)

theorem Frame.Plain.arr_cons {items : List Node} {n : Node} (plain : (Frame.arr items).Plain)
    (item : Node.Plain .value n) : (Frame.arr (n :: items)).Plain := by
  intro m member
  rcases List.mem_cons.mp member with rfl | member
  · exact item
  · exact plain m member

theorem Frame.Plain.obj_cons {ms : List (Option String × Node)} {key key' : Option String}
    {n : Node} (plain : (Frame.obj ms key).Plain) (value : Node.Plain .value n) :
    (Frame.obj ((key,n) :: ms) key').Plain := by
  intro m member
  rcases List.mem_cons.mp member with rfl | member
  · exact value
  · exact plain m member

namespace Builder

/-- Everything that a builder has gathered is plain. -/
structure Plain (b : Builder) : Prop where
  frames : ∀ fr ∈ b.frames, fr.Plain
  root : ∀ n ∈ b.root, Node.Plain .value n

variable {b : Builder}

theorem Plain.put (plain : b.Plain) (value : Node.Plain .value n) : (b.put n).Plain := by
  obtain ⟨frames,expect,root,sound⟩ := b
  obtain ⟨frames',root'⟩ := plain
  match frames with
  | [] => exact ⟨nofun,fun m same => Option.some.inj same ▸ value⟩
  | .arr items :: fs =>
    refine ⟨fun fr member => ?_,root'⟩
    rcases List.mem_cons.mp member with rfl | member
    · exact (frames' _ List.mem_cons_self).arr_cons value
    · exact frames' fr (List.mem_cons_of_mem _ member)
  | .obj ms key :: fs =>
    refine ⟨fun fr member => ?_,root'⟩
    rcases List.mem_cons.mp member with rfl | member
    · exact (frames' _ List.mem_cons_self).obj_cons value
    · exact frames' fr (List.mem_cons_of_mem _ member)

theorem Plain.openFrame (plain : b.Plain) {fr : Frame} (empty : fr.Plain) (e : Expect) :
    (b.openFrame fr e).Plain := by
  refine ⟨fun fr' member => ?_,plain.root⟩
  rcases List.mem_cons.mp member with rfl | member
  · exact empty
  · exact plain.frames fr' member

/-- The frames are closed from the innermost one outwards. -/
theorem Plain.abandon (plain : b.Plain) : b.abandon.Plain := by
  obtain ⟨frames,expect,root,sound⟩ := b
  obtain ⟨frames',root'⟩ := plain
  refine ⟨nofun,fun n left => ?_⟩
  replace left : (frames.foldl _ none <|> root) = some n := left
  rw [Option.orElse_apply,Option.orElse_eq_or,Option.or_eq_some_iff] at left
  rcases left with left | ⟨_,left⟩
  · revert n
    refine List.foldlRecOn (motive := fun o : Option Node => ∀ n, o = some n → Node.Plain .value n)
      frames _ (by nofun) ?_
    intro inner plainInner fr member
    have plainFrame := frames' fr member
    cases fr with
    | arr items =>
      cases inner with
      | none => rintro _ ⟨⟩; exact plainFrame.close false
      | some n => rintro _ ⟨⟩; exact (plainFrame.arr_cons (plainInner n rfl)).close false
    | obj ms key =>
      cases inner with
      | none => rintro _ ⟨⟩; exact plainFrame.close false
      | some n => rintro _ ⟨⟩; exact (plainFrame.obj_cons (plainInner n rfl)).close false
  · exact root' n left

theorem Plain.closeFrame (plain : b.Plain) : b.closeFrame.Plain := by
  obtain ⟨frames,expect,root,sound⟩ := b
  match frames with
  | [] => exact plain.abandon
  | fr :: fs =>
    exact Plain.put ⟨fun fr' member => plain.frames fr' (List.mem_cons_of_mem _ member),plain.root⟩
      ((plain.frames fr List.mem_cons_self).close true)

theorem Plain.atValue (plain : b.Plain) {t : Token} (integral : t.Integral) :
    (b.atValue t).Plain := by
  cases t with
  | null => exact plain.put .null
  | bool => exact plain.put .bool
  | num number =>
    obtain ⟨i,rfl,fits⟩ := integral number rfl
    exact plain.put (.num fits)
  | str => exact plain.put .str
  | openArr =>
    have empty : (Frame.arr []).Plain := nofun
    exact plain.openFrame empty .firstItem
  | openObj =>
    have empty : (Frame.obj [] none).Plain := nofun
    exact plain.openFrame empty .firstKey
  | _ => exact plain.abandon

theorem Plain.atKey (plain : b.Plain) (t : Token) : (b.atKey t).Plain := by
  unfold Builder.atKey
  split
  · split
    next ms key fs frames =>
      have inside := plain.frames
      rw [frames] at inside
      refine ⟨fun fr member => ?_,plain.root⟩
      rcases List.mem_cons.mp member with rfl | member
      · exact inside (.obj ms key) List.mem_cons_self
      · exact inside fr (List.mem_cons_of_mem _ member)
    · exact plain.abandon
  · exact plain.abandon

theorem Plain.atNext (plain : b.Plain) (t : Token) : (b.atNext t).Plain := by
  unfold Builder.atNext
  split
  · exact ⟨plain.frames,plain.root⟩
  · exact plain.closeFrame
  · exact ⟨plain.frames,plain.root⟩
  · exact plain.closeFrame
  · exact plain.abandon

theorem Plain.feed (plain : b.Plain) {t : Token} (integral : t.Integral) : (b.feed t).Plain := by
  unfold Builder.feed
  split
  · exact plain
  · split
    · exact plain.closeFrame
    · exact plain.atValue integral
    · exact plain.atValue integral
    · exact plain.closeFrame
    · exact plain.atKey _
    · exact plain.atKey _
    · exact ⟨plain.frames,plain.root⟩
    · exact plain.abandon
    · exact plain.atNext _

theorem Plain.foldl {ts : List Token} (plain : b.Plain) (integral : ∀ t ∈ ts, t.Integral) :
    (ts.foldl Builder.feed b).Plain := by
  induction ts generalizing b with
  | nil => exact plain
  | cons t ts ih =>
    exact ih (plain.feed (integral t List.mem_cons_self)) fun t member =>
      integral t (List.mem_cons_of_mem _ member)

end Builder

/-- The tree of a text with only such numbers is plain. -/
theorem Document.plain_root {us : List (Option Char)}
    (integral : ∀ t ∈ Token.ofUnits us, t.Integral) :
    ∀ n ∈ (Document.ofUnits us).root, Node.Plain .value n := by
  have start : Builder.start.Plain := ⟨nofun,nofun⟩
  have built := start.foldl integral
  simp only [Document.ofUnits,Document.ofTokens]
  split
  · exact built.root
  · exact built.abandon.root

end Node

/-! ## Records -/

namespace Fields

variable {α δ : Type} {fields : Fields δ} {holds : Node → Prop} {P : δ → Prop}

/-- A record as it was written, in a second reading. -/
theorem decoder_again {ms : List (Option String × Node)} {finish : δ → Except Defect α} {a : α}
    (parts : δ) (read : readMembers fields.list .again ms fields.empty = .ok parts)
    (finished : finish parts = .ok a) : fields.decoder finish .again (.obj ms true) = .ok a :=
  bind_eq_ok.mpr ⟨.again,rfl,bind_eq_ok.mpr ⟨parts,read,bind_eq_ok.mpr ⟨(),rfl,finished⟩⟩⟩

/-- What the fields of a record establish of its parts if something holds of every tree that a
field is read from. -/
structure Keeps (fields : Fields δ) (g : Form) (holds : Node → Prop) (P : δ → Prop) : Prop where
  empty : P fields.empty
  read : ∀ field ∈ fields.list, ∀ n parts parts', holds n → P parts →
    field.read g n parts = .ok parts' → P parts'

theorem keeps_none : none.Keeps g holds fun _ => True := ⟨trivial,nofun⟩

theorem Keeps.and (keeps : fields.Keeps g holds P) {name : String} {d : Decoder α} {Q : α → Prop}
    (part : ∀ n a, holds n → d g n = .ok a → Q a) :
    (fields.and name d).Keeps g holds fun parts => P parts.1 ∧ ∀ a ∈ parts.2, Q a where
  empty := ⟨keeps.empty,nofun⟩
  read field member n parts parts' held kept read := by
    rcases List.mem_append.mp member with member | member
    · obtain ⟨earlier,inside,rfl⟩ := List.mem_map.mp member
      obtain ⟨before,first,read⟩ := bind_eq_ok.mp read
      obtain rfl := pure_eq_ok.mp read
      exact ⟨keeps.read earlier inside n parts.1 before held kept.1 first,kept.2⟩
    · obtain rfl := List.mem_singleton.mp member
      obtain ⟨a,first,read⟩ := bind_eq_ok.mp read
      obtain rfl := pure_eq_ok.mp read
      exact ⟨kept.1,fun b same => Option.some.inj same ▸ part n a held first⟩

/-- A field of which nothing is asked. -/
theorem Keeps.any (keeps : fields.Keeps g holds P) {name : String} {d : Decoder α} :
    (fields.and name d).Keeps g holds fun parts => P parts.1 where
  empty := keeps.empty
  read field member n parts parts' held kept read :=
    ((keeps.and fun _ _ _ _ => trivial).read field member n parts parts' held
      ⟨kept,fun _ _ => trivial⟩ read).1

theorem Keeps.readMembers (keeps : fields.Keeps g holds P) {ms : List (Option String × Node)}
    {parts parts' : δ} (held : ∀ m ∈ ms, holds m.2) (kept : P parts)
    (read : Fields.readMembers fields.list g ms parts = .ok parts') : P parts' := by
  induction ms generalizing parts with
  | nil => exact pure_eq_ok.mp read ▸ kept
  | cons m ms ih =>
    have later : ∀ m' ∈ ms, holds m'.2 := fun m' member => held m' (List.mem_cons_of_mem _ member)
    rw [Fields.readMembers] at read
    obtain ⟨k,_,read⟩ := bind_eq_ok.mp read
    split at read
    next field found =>
      obtain ⟨_,_,read⟩ := bind_eq_ok.mp read
      obtain ⟨next,first,read⟩ := bind_eq_ok.mp read
      exact ih later (keeps.read field (List.mem_of_find?_eq_some found) m.2 parts next
        (held m List.mem_cons_self) kept first) read
    next =>
      obtain ⟨_,_,read⟩ := bind_eq_ok.mp read
      exact ih later kept read

theorem readItems_keeps {list : List (Field δ)}
    (each : ∀ field ∈ list, ∀ n parts parts', holds n → P parts →
      field.read g n parts = .ok parts' → P parts')
    {ns : List Node} {parts parts' : δ} (held : ∀ n ∈ ns, holds n) (kept : P parts)
    (read : Fields.readItems g list ns parts = .ok parts') : P parts' := by
  induction ns generalizing list parts with
  | nil =>
    rw [Fields.readItems] at read
    exact pure_eq_ok.mp read ▸ kept
  | cons n ns ih =>
    cases list with
    | nil => cases read
    | cons field list =>
      obtain ⟨next,first,read⟩ := bind_eq_ok.mp read
      exact ih (fun field member => each field (List.mem_cons_of_mem _ member))
        (fun n member => held n (List.mem_cons_of_mem _ member))
        (each field List.mem_cons_self n parts next (held n List.mem_cons_self) kept first) read

/-- A record that is decoded is put together of parts as its fields establish them. -/
theorem parts_of_decoder {finish : δ → Except Defect α} {a : α}
    (read : fields.decoder finish g n = .ok a) (plain : Node.Plain f n)
    (keeps : fields.Keeps g.inner (Node.Plain f.inner) P) :
    f.Fits 1 ∧ ∃ parts, P parts ∧ finish parts = .ok a := by
  cases plain with
  | obj room inside =>
    obtain ⟨_,entered,read⟩ := bind_eq_ok.mp read
    obtain ⟨_,rfl⟩ := Form.enter_eq_ok.mp entered
    obtain ⟨parts,members,read⟩ := bind_eq_ok.mp read
    obtain ⟨_,_,read⟩ := bind_eq_ok.mp read
    exact ⟨room,parts,keeps.readMembers inside keeps.empty members,read⟩
  | arr room inside =>
    obtain ⟨_,entered,read⟩ := bind_eq_ok.mp read
    obtain ⟨_,rfl⟩ := Form.enter_eq_ok.mp entered
    obtain ⟨parts,items,read⟩ := bind_eq_ok.mp read
    obtain ⟨_,_,read⟩ := bind_eq_ok.mp read
    exact ⟨room,parts,readItems_keeps keeps.read inside keeps.empty items,read⟩
  | _ => cases read

end Fields

/-! ## Tagged records -/

/-- The tag of a record is taken out of its members. -/
theorem splitTag_toNodeMembers {α : Type} {tag name : String} {kinds : List (String × α)} {a : α}
    (known : kinds.lookup name = some a) {ms : Members} (distinct : (ms.map (·.1)).Nodup)
    (tidy : ∀ p ∈ ms, Tidy f p.2) {kind : Option α}
    (atTag : ∀ v, (tag,v) ∈ ms → kind = none ∧ v = .str name) :
    splitTag tag kinds f (toNodeMembers ms) kind =
      .ok (if Members.contains ms tag then some a else kind,
        toNodeMembers (ms.filter (·.1 ≠ tag))) := by
  induction ms generalizing kind with
  | nil => rfl
  | cons p ms ih =>
    obtain ⟨k,v⟩ := p
    obtain ⟨new,distinct'⟩ := List.nodup_cons.mp distinct
    have gone : ∀ v, (k,v) ∉ ms := fun w member => new (List.mem_map_of_mem (f := (·.1)) member)
    have tidy' : ∀ p ∈ ms, Tidy f p.2 := fun p member => tidy p (List.mem_cons_of_mem _ member)
    by_cases isTag : k = tag
    · subst isTag
      obtain ⟨rfl,rfl⟩ := atTag v List.mem_cons_self
      have passed : ∀ w, (k,w) ∈ ms → some a = none ∧ w = .str name :=
        fun w member => absurd member (gone w)
      have later := ih distinct' tidy' passed
      have step : splitTag k kinds f (toNodeMembers ((k,.str name) :: ms)) none =
          splitTag k kinds f (toNodeMembers ms) (some a) := by
        simp [toNodeMembers,splitTag,toNode,present,require,kindOf,known]
      rw [step,later]
      simp [Members.contains_cons]
    · have later := ih distinct' tidy' fun v member => atTag v (List.mem_cons_of_mem (k,_) member)
      have held := hold_toNode (tidy (k,v) List.mem_cons_self)
      rw [toNodeMembers,splitTag]
      simp [present,isTag,held,later,Members.contains_cons,Ne.symm isTag,toNodeMembers]

theorem mem_of_kindOf {α : Type} {kinds : List (String × α)} {a : α}
    (read : kindOf kinds f n = .ok a) : a ∈ kinds.map (·.2) := by
  unfold kindOf at read
  split at read
  · obtain ⟨name,_,read⟩ := bind_eq_ok.mp read
    obtain ⟨before,after,rfl,_⟩ := List.lookup_eq_some_iff.mp (present_eq_ok.mp read)
    simp
  · split at read
    · obtain ⟨⟨name,_⟩,found,rfl⟩ := Option.map_eq_some_iff.mp (present_eq_ok.mp read)
      exact List.mem_map_of_mem (List.mem_of_getElem? found)
    · cases read
  · cases read

/-- The tag of a record names its kind, and the other members are left as they stand. -/
theorem of_splitTag {α : Type} {tag : String} {kinds : List (String × α)}
    {ms rest : List (Option String × Node)} {kind kind' : Option α}
    (read : splitTag tag kinds f ms kind = .ok (kind',rest)) :
    rest = ms.filter (fun m => m.1 ≠ some tag) ∧ (∀ a, kind = some a → kind' = some a) ∧
      (∀ n, (some tag,n) ∈ ms → ∃ a, kind' = some a ∧ kindOf kinds f n = .ok a) ∧
      ∀ a, kind' = some a → kind = some a ∨ ∃ n, kindOf kinds f n = .ok a := by
  induction ms generalizing kind kind' rest with
  | nil =>
    cases read
    exact ⟨rfl,fun a same => same,nofun,fun a same => .inl same⟩
  | cons m ms ih =>
    obtain ⟨key,value⟩ := m
    obtain ⟨k,named,step⟩ := bind_eq_ok.mp read
    obtain rfl : key = some k := present_eq_ok.mp named
    by_cases isTag : k = tag
    · subst isTag
      rw [if_pos rfl] at step
      obtain ⟨_,fresh,step⟩ := bind_eq_ok.mp step
      obtain ⟨a,kind,step⟩ := bind_eq_ok.mp step
      obtain ⟨left,kept,later,source⟩ := ih step
      refine ⟨by simpa using left,fun b same => ?_,fun n member => ?_,fun b same => ?_⟩
      · simp [same] at fresh
      · rcases List.mem_cons.mp member with same | member
        · cases same
          exact ⟨a,kept a rfl,kind⟩
        · exact later n member
      · rcases source b same with here | there
        · cases here
          exact .inr ⟨value,kind⟩
        · exact .inr there
    · rw [if_neg isTag] at step
      obtain ⟨_,_,step⟩ := bind_eq_ok.mp step
      obtain ⟨⟨_,_⟩,tail,step⟩ := bind_eq_ok.mp step
      cases step
      obtain ⟨left,kept,later,source⟩ := ih tail
      refine ⟨by simp [isTag,left],kept,fun n member => ?_,source⟩
      rcases List.mem_cons.mp member with same | member
      · cases same
        exact absurd rfl isTag
      · exact later n member

/-- What is left beside the tag stands in the record as it did, and the tag names a kind. -/
theorem plain_of_splitTag {α : Type} {tag : String} {kinds : List (String × α)}
    {ms rest : List (Option String × Node)} {kind kind' : Option α} (plain : ∀ p ∈ ms, p.2.Plain g)
    (read : splitTag tag kinds f ms kind = .ok (kind',rest)) :
    (∀ p ∈ rest, p.2.Plain g) ∧ ∀ a ∈ kind', kind = some a ∨ a ∈ kinds.map (·.2) := by
  obtain ⟨rfl,_,_,source⟩ := of_splitTag read
  refine ⟨fun p member => plain p (List.mem_of_mem_filter member),fun a same => ?_⟩
  exact (source a same).imp_right fun ⟨_,named⟩ => mem_of_kindOf named

end Vicinity.Json
