import NonceAllocation.Proofs.Json.Decode
import NonceAllocation.Proofs.Json.Scan

namespace NonceAllocation

/-!
# Places — a string in a text, exchanged for another one

* `Path`, `Document.at?`, `Document.textAt?` — the way to a value, the value there and its text;
* `Document.texts` — the strings that are values;
* `Document.Differ` — two documents that are the same but for the value at a path;
* `HasSlot` — a string in a text that can be exchanged without the scan getting lost;
* `Document.Slot`, `Document.exists_slot` — every string of a document stands in some place of its
  text, and another string in this place is another string at its path.
-/

/-- One step into a document. -/
inductive PathStep where
  | member (name : String)
  | item (index : Nat)
deriving DecidableEq

/-- Whether a step leads to a field: a member of that name in an object, or the item at that index
    in a list. -/
def PathStep.IsField (step : PathStep) (name : String) (index : Nat) : Prop :=
  step = .member name ∨ step = .item index

abbrev Path := List PathStep

/-- The item at an index. -/
def Items.at? : Nat → Items → Option Document
  | _, .done _ => none
  | 0, .more d _ => some d
  | i + 1, .more _ is => is.at? i

/-- The value behind one step.  Of members with the same name it is the first. -/
def Document.follow? : PathStep → Document → Option Document
  | .member name, .object ms => ms.value? name
  | .item i, .array is => is.at? i
  | _, _ => none

/-- The value at a path. -/
def Document.at? : Path → Document → Option Document
  | [], d => some d
  | step :: path, d => (d.follow? step).bind (at? path)

theorem Document.at?_singleton (step : PathStep) (d : Document) :
    d.at? [step] = d.follow? step := by
  simp [at?]

/-- The text at a path, if there is a string. -/
def Document.textAt? (path : Path) (d : Document) : Option String :=
  match d.at? path with
  | some (.string k) => k.read.toOption
  | _ => none

theorem Document.textAt?_eq_some_iff {path : Path} {d : Document} {s : String} :
    d.textAt? path = some s ↔ ∃ k, d.at? path = some (.string k) ∧ k.read = .ok s := by
  rw [textAt?]
  constructor
  · intro h
    split at h
    · rename_i k hat
      refine ⟨k, hat, ?_⟩
      cases hread : k.read with
      | ok s' =>
        rw [hread] at h
        rw [Option.some.inj h]
      | error f =>
        rw [hread] at h
        cases h
    · cases h
  · rintro ⟨k, hat, hk⟩
    rw [hat]
    show k.read.toOption = some s
    rw [hk]
    rfl

mutual

/-- The strings that are values, at any depth. -/
def Document.texts : Document → List String
  | .string k => k.read.toOption.toList
  | .array is => is.texts
  | .object ms => ms.texts
  | _ => []

def Items.texts : Items → List String
  | .done _ => []
  | .more d is => d.texts ++ is.texts

def Members.texts : Members → List String
  | .done _ => []
  | .more _ d _ ms => d.texts ++ ms.texts

end

theorem Items.texts_subset {i : Nat} {is : Items} {d : Document} (h : is.at? i = some d) :
    d.texts ⊆ is.texts := by
  induction i generalizing is with
  | zero =>
    cases is with
    | done ending => cases h
    | more v is =>
      cases h
      exact List.subset_append_left _ _
  | succ i ih =>
    cases is with
    | done ending => cases h
    | more v is => exact List.Subset.trans (ih h) (List.subset_append_right _ _)

theorem Members.texts_subset {name : String} {ms : Members} {d : Document}
    (h : ms.value? name = some d) : d.texts ⊆ ms.texts := by
  induction ms using Members.induction with
  | done ending => cases h
  | more key value raw rest ih =>
    rw [value?] at h
    split at h
    · cases h
      exact List.subset_append_left _ _
    · exact List.Subset.trans (ih h) (List.subset_append_right _ _)

theorem Document.texts_of_follow? {step : PathStep} {d x : Document} (h : d.follow? step = some x) :
    x.texts ⊆ d.texts := by
  unfold follow? at h
  split at h
  · exact Members.texts_subset h
  · exact Items.texts_subset h
  · cases h

/-- What is at a path is among the values. -/
theorem Document.texts_subset {path : Path} {d x : Document} (h : d.at? path = some x) :
    x.texts ⊆ d.texts := by
  induction path generalizing d with
  | nil =>
    cases h
    exact List.Subset.refl _
  | cons step path ih =>
    obtain ⟨v, hv, hx⟩ := Option.bind_eq_some_iff.1 h
    exact List.Subset.trans (ih hx) (texts_of_follow? hv)

/-! ### Documents that differ in one value -/

section

variable (R : Document → Document → Prop)

/-- Whether two lists of items are the same but for those at an index, which are related. -/
inductive Items.Differ : Nat → Items → Items → Prop where
  | here {d d' is} (h : R d d') : Differ 0 (.more d is) (.more d' is)
  | behind {i d is is'} (h : Differ i is is') : Differ (i + 1) (.more d is) (.more d is')

/-- Whether two objects are the same but for the values of the first member of a name, which are
    related, and for the texts of these values. -/
inductive Members.Differ (name : String) : Members → Members → Prop where
  | here {key d d' raw raw' ms} (hkey : key.read = .ok name) (h : R d d') :
    Differ name (.more key d raw ms) (.more key d' raw' ms)
  | behind {key d raw ms ms'} (hkey : key.read ≠ .ok name) (h : Differ name ms ms') :
    Differ name (.more key d raw ms) (.more key d raw ms')

end

/-- Whether two documents are the same but for the values behind one step, which are related. -/
def Document.DifferAt (R : Document → Document → Prop) : PathStep → Document → Document → Prop
  | .member name, d, d' => ∃ ms ms', d = .object ms ∧ d' = .object ms' ∧ ms.Differ R name ms'
  | .item i, d, d' => ∃ is is', d = .array is ∧ d' = .array is' ∧ is.Differ R i is'

/-- Whether two documents are the same but for the value at a path, which is `x` in the one and `x'`
    in the other. -/
def Document.Differ (x x' : Document) : Path → Document → Document → Prop
  | [], d, d' => d = x ∧ d' = x'
  | step :: path, d, d' => DifferAt (Differ x x' path) step d d'

theorem Items.Differ.exists_item {R : Document → Document → Prop} {i : Nat} {is is' : Items}
    (h : is.Differ R i is') : ∃ v v', is.at? i = some v ∧ R v v' := by
  induction h with
  | here hR => exact ⟨_, _, rfl, hR⟩
  | behind h ih => exact ih

theorem Members.Differ.exists_value {R : Document → Document → Prop} {name : String}
    {ms ms' : Members} (h : ms.Differ R name ms') : ∃ v v', ms.value? name = some v ∧ R v v' := by
  induction h with
  | here hkey hR => exact ⟨_, _, value?_of_eq hkey, hR⟩
  | behind hkey h ih =>
    rw [value?_of_ne hkey]
    exact ih

theorem Document.follow?_of_differAt {R : Document → Document → Prop} {step : PathStep}
    {d d' : Document} (h : DifferAt R step d d') : ∃ v v', d.follow? step = some v ∧ R v v' := by
  cases step with
  | member name =>
    obtain ⟨ms, ms', rfl, rfl, h⟩ := h
    exact h.exists_value
  | item i =>
    obtain ⟨is, is', rfl, rfl, h⟩ := h
    exact h.exists_item

theorem Document.at?_of_differ {x x' d d' : Document} {path : Path} (h : Differ x x' path d d') :
    d.at? path = some x := by
  induction path generalizing d d' with
  | nil =>
    obtain ⟨rfl, rfl⟩ := h
    rfl
  | cons step path ih =>
    obtain ⟨v, v', hv, hdiffer⟩ := follow?_of_differAt h
    exact Option.bind_eq_some_iff.2 ⟨v, hv, ih hdiffer⟩

/-! ### Strings that can be exchanged -/

open Document

section

variable {β γ : Type} {spare spare' : Nat} {scan : Nat → List Char → β × Option (List Char)}
  {scan' : Nat → List Char → γ × Option (List Char)} {R : Scanned String → β → Prop}
  {Q : Scanned String → γ → Prop} {A : List Char → List Char → Prop} {f : β → γ}
  {cs tail mid rest : List Char} {k : Scanned String}

/-- Whether a text holds the string `k` in a place where any other string is found as well: with it
    the scan finds something that is related to that string. -/
def HasSlot (scan : Nat → List Char → β × Option (List Char)) (spare : Nat)
    (R : Scanned String → β → Prop) (k : Scanned String) (cs rest : List Char) : Prop :=
  ∃ front lit back, cs = front ++ (lit ++ back) ∧ Escape.Spells lit k ∧
    ∀ lit' k', Escape.Spells lit' k' →
      ∃ b, Finds scan spare b (front ++ (lit' ++ back)) rest ∧ R k' b

namespace HasSlot

/-- What is settled in front of the place stays the same, and so does what follows it. -/
theorem within (hA : Settled A cs tail) (h : HasSlot scan spare R k tail mid)
    (hstep : ∀ x y k' b, A x y → Finds scan spare b y mid → R k' b →
      ∃ c, Finds scan' spare' c x rest ∧ Q k' c) : HasSlot scan' spare' Q k cs rest := by
  obtain ⟨settled, rfl, hA⟩ := hA
  obtain ⟨front, lit, back, rfl, hlit, h⟩ := h
  refine ⟨settled ++ front, lit, back, (List.append_assoc ..).symm, hlit, fun lit' k' hlit' => ?_⟩
  obtain ⟨b, hfinds, hR⟩ := h lit' k' hlit'
  -- Every string begins with the same mark.
  have hhead : (front ++ (lit' ++ back)).head? = (front ++ (lit ++ back)).head? := by
    obtain ⟨body, rfl, -⟩ := hlit
    obtain ⟨body', rfl, -⟩ := hlit'
    simp
  rw [List.append_assoc]
  exact hstep _ _ _ _ (hA _ hhead) hfinds hR

theorem of_leads (hleads : Settled (Leads scan spare scan' spare' f) cs tail)
    (h : HasSlot scan spare R k tail rest) (hR : ∀ k' b, R k' b → Q k' (f b)) :
    HasSlot scan' spare' Q k cs rest :=
  h.within hleads fun _ _ k' b hxy hb hRb => ⟨f b, hxy b rest hb, hR k' b hRb⟩

end HasSlot

end

variable {fuel : Nat} {cs rest : List Char} {k : Scanned String}

/-- A value that is a string can be exchanged itself. -/
theorem hasSlot_string (h : scanValue fuel cs = (.string k, some rest)) :
    HasSlot scanValue 2 (fun k' d' => d' = .string k') k cs rest := by
  obtain ⟨tail, hblanks, hscan⟩ := exists_scan_of_string h
  obtain ⟨body, rfl, hspells⟩ := Escape.exists_spells hscan
  obtain ⟨front, rfl, hfront, hmark⟩ := skipBlanks_eq_cons_iff.1 hblanks
  refine ⟨front, '"' :: body, rest, rfl, hspells, ?_⟩
  rintro _ k' ⟨body', rfl, -, hbody'⟩
  have hblanks' : skipBlanks (front ++ ('"' :: body' ++ rest)) = '"' :: (body' ++ rest) :=
    skipBlanks_eq_cons_iff.2 ⟨front, rfl, hfront, hmark⟩
  exact ⟨.string k', .token hblanks' (by simp) fun _ => .string (hbody' rest), rfl⟩

section

variable {S : Scanned String → Document → Document → Prop} {d : Document}

/-- A place inside an item is a place inside the list. -/
theorem hasSlot_item {i : Nat} {is : Items}
    (hd : ∀ {fuel cs rest}, scanValue fuel cs = (d, some rest) →
      HasSlot scanValue 2 (fun k' d' => S k' d d') k cs rest)
    (h : scanItem fuel cs = (is, some rest)) (hat : is.at? i = some d) :
    HasSlot scanItem 3 (fun k' is' => is.Differ (S k') i is') k cs rest := by
  induction i generalizing fuel cs is with
  | zero =>
    cases fuel with
    | zero => cases h
    | succ fuel =>
      obtain ⟨v, mid, is', hvalue, hmore, rfl⟩ := scanItem_eq_some_iff.1 h
      cases hat
      -- The place is in this item, and those behind it are as they were.
      refine (hd hvalue).within .refl ?_
      rintro x _ k' d' rfl hd' hS
      exact ⟨.more d' is', .item hd' (settled_moreItems hmore).holds, .here hS⟩
  | succ i ih =>
    cases fuel with
    | zero => cases h
    | succ fuel =>
      obtain ⟨v, mid, is', hvalue, hmore, rfl⟩ := scanItem_eq_some_iff.1 h
      -- The place is behind this item, which leads to the next one.
      replace hat : is'.at? i = some d := hat
      cases fuel with
      | zero => cases hmore
      | succ fuel =>
        rcases scanMoreItems_eq_some_iff.1 hmore with
          ⟨-, rfl⟩ | ⟨cs', hcomma, ⟨-, rfl⟩ | ⟨c, tail, hblanks, hc, hitem⟩⟩
        · simp [Items.at?] at hat
        · simp [Items.at?] at hat
        · have hbehind := (ih hitem hat).of_leads (leads_moreItems hcomma hblanks hc)
            (Q := fun k' is' => _) fun _ _ => id
          exact hbehind.of_leads (leads_item (settled_value hvalue)) fun _ _ => .behind

/-- A place inside a member's value is a place inside the object. -/
theorem hasSlot_member {name : String} {ms : Members}
    (hd : ∀ {fuel cs rest}, scanValue fuel cs = (d, some rest) →
      HasSlot scanValue 2 (fun k' d' => S k' d d') k cs rest)
    (h : scanMember fuel cs = (ms, some rest)) (hat : ms.value? name = some d) :
    HasSlot scanMember 2 (fun k' ms' => ms.Differ (S k') name ms') k cs rest := by
  induction ms using Members.induction generalizing fuel cs with
  | done ending => cases hat
  | more key value raw ms ih =>
    cases fuel with
    | zero => cases h
    | succ fuel =>
      obtain ⟨_, v, w, _, mid, _, hkey, hcolon, hvalue, hmore, heq⟩ := scanMember_eq_some_iff.1 h
      cases heq
      have hkey := settled_key hkey hcolon hvalue
      by_cases hname : key.read = .ok name
      · -- With its value the text of the member is another one.
        obtain rfl : value = d := Option.some.inj ((Members.value?_of_eq hname).symm.trans hat)
        refine (hd hvalue).within hkey ?_
        rintro x y k' d' ⟨v, w, hlength, hkey, hcolon, hy⟩ hd' hS
        exact ⟨_, .member hlength hkey hcolon hy hd' (settled_moreMembers hmore).holds,
          .here hname hS⟩
      · rw [Members.value?_of_ne hname] at hat
        cases fuel with
        | zero => cases hmore
        | succ fuel =>
          rcases scanMoreMembers_eq_some_iff.1 hmore with
            ⟨-, rfl⟩ | ⟨cs', hcomma, ⟨-, rfl⟩ | ⟨tail, hblanks, hmember⟩⟩
          · cases hat
          · cases hat
          · have hbehind := (ih hmember hat).of_leads (leads_moreMembers hcomma hblanks)
              (Q := fun k' ms' => _) fun _ _ => id
            exact hbehind.of_leads (leads_member hkey (settled_value hvalue))
              fun _ _ => .behind hname

end

/-- **Strings can be exchanged** wherever they stand in a value. -/
theorem hasSlot_value {path : Path} {d : Document} (h : scanValue fuel cs = (d, some rest))
    (hat : d.at? path = some (.string k)) :
    HasSlot scanValue 2 (fun k' d' => Differ (.string k) (.string k') path d d') k cs rest := by
  induction path generalizing fuel cs rest d with
  | nil =>
    cases hat
    refine (hasSlot_string h).within .refl ?_
    rintro x _ k' d' rfl hd' rfl
    exact ⟨_, hd', rfl, rfl⟩
  | cons step path ih =>
    obtain ⟨v, hv, hinside⟩ := Option.bind_eq_some_iff.1 hat
    -- The value is an object or a list, and its first member or item is where the walk begins.
    cases step with
    | member name =>
      cases d with
      | object ms =>
        obtain ⟨fuel', tail, hblanks, hmembers⟩ := exists_scanMembers h
        cases fuel' with
        | zero => cases hmembers
        | succ fuel' =>
          rcases scanMembers_eq_some_iff.1 hmembers with ⟨-, rfl⟩ | ⟨tail', hmark, hmember⟩
          · cases hv
          · have hslot := hasSlot_member (fun h => ih h hinside) hmember hv
            have hmembers := hslot.of_leads (leads_members hmark) (Q := fun k' ms' => _)
              fun _ _ => id
            exact hmembers.of_leads (leads_object hblanks)
              fun k' ms' hms => ⟨ms, ms', rfl, rfl, hms⟩
      | _ => cases hv
    | item i =>
      cases d with
      | array is =>
        obtain ⟨fuel', tail, hblanks, hitems⟩ := exists_scanItems h
        cases fuel' with
        | zero => cases hitems
        | succ fuel' =>
          rcases scanItems_eq_some_iff.1 hitems with ⟨-, rfl⟩ | ⟨c, tail', hfirst, hc, hitem⟩
          · simp [follow?, Items.at?] at hv
          · have hslot := hasSlot_item (fun h => ih h hinside) hitem hv
            have hitems := hslot.of_leads (leads_items hfirst hc) (Q := fun k' is' => _)
              fun _ _ => id
            exact hitems.of_leads (leads_array hblanks) fun k' is' his => ⟨is, is', rfl, rfl, his⟩
      | _ => cases hv

/-- Whether the string at a path, found as `k`, stands between `front` and `back`: any other string
    that is put there is found at the path, and everything else as before. -/
structure Document.Slot (cs : List Char) (path : Path) (k : Scanned String)
    (front back : List Char) : Prop where
  split : ∃ lit, Escape.Spells lit k ∧ cs = front ++ (lit ++ back)
  exchange : ∀ lit' k', Escape.Spells lit' k' →
    ∃ d', scan (front ++ (lit' ++ back)) = (d', (scan cs).2) ∧
      Differ (.string k) (.string k') path (scan cs).1 d'

/-- Every string of a document stands somewhere in its text. -/
theorem Document.exists_slot {path : Path} (hrest : (scan cs).2 = some rest)
    (hat : (scan cs).1.at? path = some (.string k)) : ∃ front back, Slot cs path k front back := by
  have hscan : scan cs = ((scan cs).1, some rest) := Prod.ext rfl hrest
  obtain ⟨front, lit, back, hcs, hlit, hslot⟩ := hasSlot_value hscan hat
  refine ⟨front, back, ⟨lit, hlit, hcs⟩, fun lit' k' hlit' => ?_⟩
  obtain ⟨d', hd', hdiffer⟩ := hslot lit' k' hlit'
  exact ⟨d', hrest ▸ finds_iff.1 hd', hdiffer⟩

end NonceAllocation
