import NonceAllocation.Proofs.Json.Decode

namespace NonceAllocation

/-!
# Structures of two fields — which documents hold one

A structure with a field that must be there and one that may be missing is an object of its fields
or a list of them.

* `Items.values?` — the items of a list that is well formed;
* `Decoder.IsField` — what the values under a name come to: one of them decoded, or none;
* `Members.Seeks`, `Members.Seeks.collect_eq_ok_iff` — a walk that looks for two fields takes each
  of them for itself;
* `Decoder.IsStructure`, `Decoder.structure_eq_ok_iff` — the documents that hold a structure, and
  its fields;
* `Decoder.list_eq_ok_iff`, `Decoder.enum_eq_ok_iff` — lists, and names of a fixed set.
-/

open Decoder

variable {α β γ σ : Type}

/-! ### Lists that are well formed -/

namespace Items

/-- The items of a list that ends in its closing bracket. -/
def values? : Items → Option (List Document)
  | .done .closed => some []
  | .done _ => none
  | .more d rest => rest.values?.map (d :: ·)

variable {items : Items} {ds : List Document}

theorem values?_eq_nil_iff : items.values? = some [] ↔ items = .done .closed := by
  cases items with
  | done ending => cases ending <;> simp [values?]
  | more d rest => simp [values?]

theorem values?_eq_cons_iff {d : Document} :
    items.values? = some (d :: ds) ↔ ∃ rest, items = .more d rest ∧ rest.values? = some ds := by
  cases items with
  | done ending => cases ending <;> simp [values?]
  | more d' rest =>
    simp only [values?, Option.map_eq_some_iff, List.cons.injEq, Items.more.injEq]
    constructor
    · rintro ⟨ds', hrest, rfl, rfl⟩
      exact ⟨rest, ⟨rfl, rfl⟩, hrest⟩
    · rintro ⟨_, ⟨rfl, rfl⟩, hrest⟩
      exact ⟨ds, hrest, rfl, rfl⟩

theorem close_eq_ok_iff : items.close = .ok () ↔ items = .done .closed := by
  cases items with
  | done ending => cases ending <;> simp [close]
  | more d rest => simp [close]

theorem required_eq_ok_iff {index : Nat} {expected : String} {decode : Decoder α} {a : α}
    {rest : Items} :
    items.required index expected decode = .ok (a, rest) ↔
      ∃ d, items = .more d rest ∧ decode d = .ok a := by
  refine ⟨required_eq_ok, ?_⟩
  rintro ⟨d, rfl, hd⟩
  exact required_more hd

end Items

theorem Ending.check_eq_ok_iff {ending : Ending} : ending.check = .ok () ↔ ending = .closed := by
  cases ending <;> simp [Ending.check]

/-! ### One field -/

namespace Decoder

/-- What the values under a name come to: there is none, or one, which is decoded. -/
inductive IsField (decode : Decoder α) : List Document → Option α → Prop where
  | absent : IsField decode [] none
  | present {d a} (h : decode d = .ok a) : IsField decode [d] (some a)

/-- A value that is found after others under its name. -/
theorem once_foldlM_some {name : String} {decode : Decoder α} {a : α} {x : Option α}
    (ds : List Document) :
    ds.foldlM (fun x d => once name x decode d) (some a) = .ok x ↔ ds = [] ∧ x = some a := by
  cases ds with
  | nil =>
    show Except.ok (some a) = .ok x ↔ _
    simp [eq_comm]
  | cons d ds =>
    rw [List.foldlM_cons, bind_eq_ok_iff]
    simp [once]

/-- The values under a name are taken one after the other, so that a second one is refused. -/
theorem once_foldlM_iff {name : String} {decode : Decoder α} {x : Option α} {ds : List Document} :
    ds.foldlM (fun x d => once name x decode d) none = .ok x ↔ IsField decode ds x := by
  cases ds with
  | nil =>
    constructor
    · intro h
      cases h
      exact .absent
    · intro h
      cases h
      rfl
  | cons d ds =>
    simp only [List.foldlM_cons, bind_eq_ok_iff, once_eq_ok_iff]
    constructor
    · -- Once the first value has been taken, no other may follow.
      rintro ⟨_, ⟨-, a, ha, rfl⟩, hds⟩
      obtain ⟨rfl, rfl⟩ := (once_foldlM_some ds).1 hds
      exact .present ha
    · intro h
      cases h with
      | @present _ a ha =>
        exact ⟨some a, ⟨trivial, a, ha, rfl⟩, (once_foldlM_some []).2 ⟨rfl, rfl⟩⟩

end Decoder

/-! ### Walks along members -/

/-- The values of the members of that name. -/
def valuesOf (name : String) (es : List (String × Document)) : List Document :=
  (es.filter fun e => e.1 == name).map Prod.snd

theorem valuesOf_cons_self (name : String) (d : Document) (es : List (String × Document)) :
    valuesOf name ((name, d) :: es) = d :: valuesOf name es := by
  simp [valuesOf]

theorem valuesOf_cons_of_ne {name key : String} (h : key ≠ name) (d : Document)
    (es : List (String × Document)) : valuesOf name ((key, d) :: es) = valuesOf name es := by
  simp [valuesOf, h]

namespace Members

/-- Whether a walk looks for two fields and for nothing else; `make` tells what has been found of
    them. -/
structure Seeks (step : σ → String → Document → Except DecodeError σ)
    (make : Option α → Option β → σ) (first second : String) (decodeFirst : Decoder α)
    (decodeSecond : Decoder β) : Prop where
  ne : first ≠ second
  step_first : ∀ x y d,
    step (make x y) first d = (once first x decodeFirst d).map fun x => make x y
  step_second : ∀ x y d,
    step (make x y) second d = (once second y decodeSecond d).map fun y => make x y
  step_other : ∀ s key d, key ≠ first → key ≠ second → step s key d = ignored s d

variable {step : σ → String → Document → Except DecodeError σ} {make : Option α → Option β → σ}
  {first second : String} {decodeFirst : Decoder α} {decodeSecond : Decoder β}
  {members : Members} {es : List (String × Document)} {s : σ}

/-- The walk is one walk for each of the fields, and the other members are skipped. -/
theorem Seeks.foldlM_iff (h : Seeks step make first second decodeFirst decodeSecond)
    (x : Option α) (y : Option β) :
    es.foldlM (fun s e => step s e.1 e.2) (make x y) = .ok s ↔
      ∃ x' y', s = make x' y' ∧
        (valuesOf first es).foldlM (fun x d => once first x decodeFirst d) x = .ok x' ∧
        (valuesOf second es).foldlM (fun y d => once second y decodeSecond d) y = .ok y' ∧
        ∀ e ∈ es, e.1 ≠ first → e.1 ≠ second → e.2.skip = .ok () := by
  induction es generalizing x y with
  | nil =>
    constructor
    · intro hs
      cases hs
      exact ⟨x, y, rfl, rfl, rfl, fun e he => absurd he List.not_mem_nil⟩
    · rintro ⟨x', y', rfl, hx, hy, -⟩
      cases hx
      cases hy
      rfl
  | cons e es ih =>
    obtain ⟨key, d⟩ := e
    rw [List.foldlM_cons, List.forall_mem_cons]
    -- The member is one field's value, or the other's, or it is skipped.
    by_cases hfirst : key = first
    · subst hfirst
      simp only [h.step_first, bind_eq_ok_iff, map_eq_ok_iff, exists_exists_and_eq_and, ih,
        valuesOf_cons_self, valuesOf_cons_of_ne h.ne, List.foldlM_cons]
      constructor
      · rintro ⟨x₁, hx₁, x', y', rfl, hx, hy, hothers⟩
        exact ⟨x', y', rfl, ⟨x₁, hx₁, hx⟩, hy, fun hne => absurd rfl hne, hothers⟩
      · rintro ⟨x', y', rfl, ⟨x₁, hx₁, hx⟩, hy, -, hothers⟩
        exact ⟨x₁, hx₁, x', y', rfl, hx, hy, hothers⟩
    · by_cases hsecond : key = second
      · subst hsecond
        simp only [h.step_second, bind_eq_ok_iff, map_eq_ok_iff, exists_exists_and_eq_and, ih,
          valuesOf_cons_self, valuesOf_cons_of_ne hfirst, List.foldlM_cons]
        constructor
        · rintro ⟨y₁, hy₁, x', y', rfl, hx, hy, hothers⟩
          exact ⟨x', y', rfl, hx, ⟨y₁, hy₁, hy⟩, fun _ hne => absurd rfl hne, hothers⟩
        · rintro ⟨x', y', rfl, hx, ⟨y₁, hy₁, hy⟩, -, hothers⟩
          exact ⟨y₁, hy₁, x', y', rfl, hx, hy, hothers⟩
      · simp only [h.step_other _ _ _ hfirst hsecond, bind_eq_ok_iff, ignored_eq_ok_iff,
          valuesOf_cons_of_ne hfirst, valuesOf_cons_of_ne hsecond]
        constructor
        · rintro ⟨_, ⟨hskip, rfl⟩, hrest⟩
          obtain ⟨x', y', rfl, hx, hy, hothers⟩ := (ih x y).1 hrest
          exact ⟨x', y', rfl, hx, hy, fun _ _ => hskip, hothers⟩
        · rintro ⟨x', y', rfl, hx, hy, hskip, hothers⟩
          exact ⟨_, ⟨hskip hfirst hsecond, rfl⟩, (ih x y).2 ⟨x', y', rfl, hx, hy, hothers⟩⟩

/-- A walk comes to its end exactly if the object is well formed and the walk along its members
    does. -/
theorem collect_iff_entries {s' : σ} : members.collect step s = .ok s' ↔
    ∃ es, members.entries? = some es ∧ es.foldlM (fun s e => step s e.1 e.2) s = .ok s' := by
  constructor
  · intro h
    induction members using Members.induction generalizing s with
    | done ending =>
      obtain ⟨_, hending, rfl⟩ := map_eq_ok_iff.1 h
      obtain rfl := Ending.check_eq_ok_iff.1 (checked_eq_ok_iff.1 hending)
      exact ⟨[], rfl, rfl⟩
    | more key value raw rest ih =>
      obtain ⟨k, s₁, hk, hstep, hrest⟩ := collect_more h
      obtain ⟨es, hes, hfold⟩ := ih hrest
      refine ⟨(k, value) :: es, ?_, bind_eq_ok_iff.2 ⟨s₁, hstep, hfold⟩⟩
      rw [entries?, hk, hes]
      rfl
  · rintro ⟨es, hes, hfold⟩
    rw [collect_of_entries hes, hfold]

/-- What a walk finds of its two fields in an object. -/
theorem Seeks.collect_eq_ok_iff (h : Seeks step make first second decodeFirst decodeSecond) :
    members.collect step (make none none) = .ok s ↔
      ∃ es x y, members.entries? = some es ∧ s = make x y ∧
        IsField decodeFirst (valuesOf first es) x ∧ IsField decodeSecond (valuesOf second es) y ∧
        ∀ e ∈ es, e.1 ≠ first → e.1 ≠ second → e.2.skip = .ok () := by
  simp only [collect_iff_entries, h.foldlM_iff, once_foldlM_iff]
  constructor
  · rintro ⟨es, hes, x, y, rfl, hx, hy, hothers⟩
    exact ⟨es, x, y, hes, rfl, hx, hy, hothers⟩
  · rintro ⟨es, x, y, hes, rfl, hx, hy, hothers⟩
    exact ⟨es, hes, x, y, rfl, hx, hy, hothers⟩

end Members

/-! ### Structures -/

namespace Decoder

/-- Whether a document holds a structure with the field `a`, and with what is told of the other one,
    which may be missing. -/
inductive IsStructure (first second : String) (decodeFirst : Decoder α) (decodeSecond : Decoder β) :
    Document → α → Option β → Prop where
  /-- An object has each field once and may have other members, which are values. -/
  | object {members es a b} (hes : members.entries? = some es)
      (hfirst : IsField decodeFirst (valuesOf first es) (some a))
      (hsecond : IsField decodeSecond (valuesOf second es) b)
      (hothers : ∀ e ∈ es, e.1 ≠ first → e.1 ≠ second → e.2.skip = .ok ()) :
      IsStructure first second decodeFirst decodeSecond (.object members) a b
  /-- A list has the fields in their order and nothing else. -/
  | list {items d ds a b} (hvalues : items.values? = some (d :: ds))
      (hfirst : decodeFirst d = .ok a) (hsecond : IsField decodeSecond ds b) :
      IsStructure first second decodeFirst decodeSecond (.array items) a b

variable {decodeFirst : Decoder α} {decodeSecond : Decoder β} {items : Items} {a : α} {b : Option β}

/-- The last field of a list, and its end. -/
theorem optional_close_iff :
    (∃ rest, items.optional decodeSecond = .ok (b, rest) ∧ rest.close = .ok ()) ↔
      ∃ ds, items.values? = some ds ∧ IsField decodeSecond ds b := by
  simp only [Items.close_eq_ok_iff]
  cases items with
  | done ending =>
    constructor
    · rintro ⟨rest, hoptional, rfl⟩
      obtain ⟨_, -, heq⟩ := map_eq_ok_iff.1 hoptional
      cases heq
      exact ⟨[], rfl, .absent⟩
    · rintro ⟨ds, hds, hfield⟩
      cases ending with
      | closed =>
        cases hds
        cases hfield
        exact ⟨_, rfl, rfl⟩
      | _ => cases hds
  | more d rest =>
    constructor
    · rintro ⟨rest', hoptional, rfl⟩
      obtain ⟨a, ha, heq⟩ := map_eq_ok_iff.1 hoptional
      cases heq
      exact ⟨[d], rfl, .present ha⟩
    · rintro ⟨ds, hds, hfield⟩
      obtain ⟨ds', hrest, rfl⟩ := Option.map_eq_some_iff.1 hds
      cases hfield with
      | present ha =>
        rw [Items.values?_eq_nil_iff.1 hrest]
        exact ⟨_, map_eq_ok_iff.2 ⟨_, ha, rfl⟩, rfl⟩

section

variable {decode : Decoder γ} {step : σ → String → Document → Except DecodeError σ}
  {make : Option α → Option β → σ} {first second expected described : String}

/-- **The documents that hold a structure.**  A decoder of structures takes them and no others. -/
theorem structure_eq_ok_iff (build : α → Option β → γ) (get : σ → Option α) (get' : σ → Option β)
    (hseeks : Members.Seeks step make first second decodeFirst decodeSecond)
    (hget : ∀ x y, get (make x y) = x ∧ get' (make x y) = y)
    (hdecode : ∀ d, decode d = match d with
      | .object members => do
        let s ← members.collect step (make none none)
        let a ← needed first (get s)
        .ok (build a (get' s))
      | .array items => do
        let (a, is) ← items.required 0 described decodeFirst
        let (b, is) ← is.optional decodeSecond
        is.close
        .ok (build a b)
      | d => .error (d.mismatch expected))
    {d : Document} {c : γ} :
    decode d = .ok c ↔
      ∃ a b, IsStructure first second decodeFirst decodeSecond d a b ∧ c = build a b := by
  rw [hdecode]
  constructor
  · intro h
    split at h
    · -- An object: the fields have been sought along its members.
      rename_i members
      obtain ⟨s, hs, h⟩ := bind_eq_ok_iff.1 h
      obtain ⟨a, ha, h⟩ := bind_eq_ok_iff.1 h
      cases h
      obtain ⟨es, x, y, hes, rfl, hx, hy, hothers⟩ := hseeks.collect_eq_ok_iff.1 hs
      rw [(hget x y).1, needed_eq_ok_iff] at ha
      subst ha
      rw [(hget _ y).2]
      exact ⟨a, y, .object hes hx hy hothers, rfl⟩
    · -- A list: the fields stand at its beginning, and nothing stands behind them.
      rename_i items
      obtain ⟨⟨a, is⟩, ha, h⟩ := bind_eq_ok_iff.1 h
      obtain ⟨⟨b, is'⟩, hb, h⟩ := bind_eq_ok_iff.1 h
      obtain ⟨_, hclose, h⟩ := bind_eq_ok_iff.1 h
      cases h
      obtain ⟨d, rfl, hd⟩ := Items.required_eq_ok_iff.1 ha
      obtain ⟨ds, hds, hfield⟩ := optional_close_iff.1 ⟨is', hb, hclose⟩
      exact ⟨a, b, .list (Items.values?_eq_cons_iff.2 ⟨is, rfl, hds⟩) hd hfield, rfl⟩
    · cases h
  · rintro ⟨a, b, hholds, rfl⟩
    cases hholds with
    | @object members es _ _ hes hfirst hsecond hothers =>
      have hs := hseeks.collect_eq_ok_iff.2 ⟨es, _, _, hes, rfl, hfirst, hsecond, hothers⟩
      have ha : needed first (get (make (some a) b)) = .ok a :=
        needed_eq_ok_iff.2 (hget (some a) b).1
      refine bind_eq_ok_iff.2 ⟨_, hs, bind_eq_ok_iff.2 ⟨a, ha, ?_⟩⟩
      rw [(hget _ b).2]
    | list hvalues hfirst hsecond =>
      obtain ⟨rest, rfl, hrest⟩ := Items.values?_eq_cons_iff.1 hvalues
      obtain ⟨is, hb, hclose⟩ := optional_close_iff.2 ⟨_, hrest, hsecond⟩
      refine bind_eq_ok_iff.2 ⟨_, Items.required_eq_ok_iff.2 ⟨_, rfl, hfirst⟩, ?_⟩
      exact bind_eq_ok_iff.2 ⟨_, hb, bind_eq_ok_iff.2 ⟨_, hclose, rfl⟩⟩

end

/-! ### Lists and names -/

theorem items_eq_ok_iff {decode : Decoder α} {items : Items} {as : List α} :
    Decoder.items decode items = .ok as ↔
      ∃ ds, items.values? = some ds ∧ List.Forall₂ (fun d a => decode d = .ok a) ds as := by
  induction as generalizing items with
  | nil =>
    simp only [List.forall₂_nil_right_iff, exists_eq_right, Items.values?_eq_nil_iff]
    cases items with
    | done ending => cases ending <;> simp [Decoder.items, map_eq_ok_iff, Ending.check]
    | more d rest => simp [Decoder.items, bind_eq_ok_iff]
  | cons a as ih =>
    simp only [List.forall₂_cons_right_iff]
    cases items with
    | done ending =>
      cases ending <;> simp [Decoder.items, map_eq_ok_iff, Items.values?]
    | more d rest =>
      simp only [Decoder.items, bind_eq_ok_iff, Except.ok.injEq, List.cons.injEq]
      constructor
      · rintro ⟨_, hd, _, hrest, rfl, rfl⟩
        obtain ⟨ds, hds, hall⟩ := ih.1 hrest
        exact ⟨d :: ds, Items.values?_eq_cons_iff.2 ⟨rest, rfl, hds⟩, d, ds, hd, hall, rfl⟩
      · rintro ⟨_, hvalues, d', ds, hd, hall, rfl⟩
        obtain ⟨_, heq, hds⟩ := Items.values?_eq_cons_iff.1 hvalues
        cases heq
        exact ⟨a, hd, as, ih.2 ⟨ds, hds, hall⟩, rfl, rfl⟩

/-- A list is decoded item by item. -/
theorem list_eq_ok_iff {decode : Decoder α} {d : Document} {as : List α} :
    Decoder.list decode d = .ok as ↔
      ∃ items ds, d = .array items ∧ items.values? = some ds ∧
        List.Forall₂ (fun d a => decode d = .ok a) ds as := by
  cases d with
  | array items => simp [Decoder.list, items_eq_ok_iff]
  | _ => simp [Decoder.list]

/-- Whether a document is a name: a text, or an object whose only member has the name and no
    value. -/
inductive IsName : Document → String → Prop where
  | text {s name} (h : s.read = .ok name) : IsName (.string s) name
  | member {key raw name} (h : key.read = .ok name) :
      IsName (.object (.more key .null raw (.done .closed))) name

section

variable {values : List α} {name : α → String} {v : α}

theorem ofName_eq_ok_iff (hname : ∀ v ∈ values, ∀ w ∈ values, name v = name w → v = w)
    {s : String} : ofName values name s = .ok v ↔ v ∈ values ∧ name v = s := by
  rw [ofName]
  split
  · rename_i w hfound
    have hw := List.mem_of_find?_eq_some hfound
    have hs : name w = s := by simpa using List.find?_some hfound
    rw [Except.ok.injEq]
    constructor
    · rintro rfl
      exact ⟨hw, hs⟩
    · rintro ⟨hv, rfl⟩
      exact hname w hw v hv hs
  · rename_i hnone
    constructor
    · intro h
      cases h
    · rintro ⟨hv, rfl⟩
      have hmissed := List.find?_eq_none.1 hnone v hv
      simp at hmissed

theorem onlyMember_eq_ok_iff {members : Members} :
    onlyMember members = .ok () ↔ members = .done .closed := by
  cases members with
  | done ending => cases ending <;> simp [onlyMember]
  | more key value raw rest => simp [onlyMember]

theorem unit_eq_ok_iff {d : Document} : unit d = .ok () ↔ d = .null := by
  cases d <;> simp [unit]

/-- A value of a fixed set is decoded from its name. -/
theorem enum_eq_ok_iff (hname : ∀ v ∈ values, ∀ w ∈ values, name v = name w → v = w)
    {d : Document} : enum values name d = .ok v ↔ v ∈ values ∧ IsName d (name v) := by
  constructor
  · intro h
    unfold enum at h
    split at h
    · -- A text is the name itself.
      obtain ⟨s, hs, h⟩ := bind_eq_ok_iff.1 h
      obtain ⟨hv, rfl⟩ := (ofName_eq_ok_iff hname).1 h
      exact ⟨hv, .text (checked_eq_ok_iff.1 hs)⟩
    · -- An object has the name as its only key, with `null` behind it.
      obtain ⟨s, hs, h⟩ := bind_eq_ok_iff.1 h
      obtain ⟨w, hw, h⟩ := bind_eq_ok_iff.1 h
      obtain ⟨_, hunit, h⟩ := bind_eq_ok_iff.1 h
      obtain ⟨_, honly, h⟩ := bind_eq_ok_iff.1 h
      cases h
      obtain ⟨hv, rfl⟩ := (ofName_eq_ok_iff hname).1 hw
      rw [unit_eq_ok_iff.1 hunit, onlyMember_eq_ok_iff.1 honly]
      exact ⟨hv, .member (checked_eq_ok_iff.1 hs)⟩
    all_goals cases h
  · rintro ⟨hv, hd⟩
    generalize hs : name v = s at hd
    have hfound := (ofName_eq_ok_iff hname).2 ⟨hv, hs⟩
    cases hd with
    | text h => exact bind_eq_ok_iff.2 ⟨s, checked_eq_ok_iff.2 h, hfound⟩
    | member h =>
      refine bind_eq_ok_iff.2 ⟨s, checked_eq_ok_iff.2 h, bind_eq_ok_iff.2 ⟨v, hfound, ?_⟩⟩
      exact bind_eq_ok_iff.2 ⟨(), rfl, bind_eq_ok_iff.2 ⟨(), rfl, rfl⟩⟩

end

end Decoder

end NonceAllocation
