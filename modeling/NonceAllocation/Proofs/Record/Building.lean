import NonceAllocation.Record

namespace NonceAllocation

/-!
# Records — built step by step

A record after any edits, in any order and with any readings of the clock:

* `Record.Edit`, `Record.edit`, `Record.edited` — the edits, one and several of them;
* `Record.edit_eq`, `Record.edited_eq` — what one edit does to each part of a record, and what
  several do: most parts are as the last edit of them leaves them, a time is the first one stamped;
* `Record.edited_eq_of_filter_eq` — only the order among the edits of one builder matters;
* `Record.Timed`, `Record.Timed.edited` — a submitted record has the time of that, a confirmed one
  too;
* `Record.BuiltBy`, `Record.builtBy_edited` — all of it, for a fresh record.
-/

namespace Record

variable {Account : Type} {bits : Nat}

/-! ### Edits -/

/-- One step of building a record. -/
inductive Edit (bits : Nat) where
  | withId (id : String)
  | withNonce (nonce : Nonce bits)
  /-- A move to a status, and what the clock shows then. -/
  | withStatus (status : Status) (now : Timestamp)
  | withTxHash (txHash : String)

/-- The builders, of which each makes one kind of edit. -/
inductive Builder where
  | id
  | nonce
  | status
  | txHash
deriving DecidableEq

namespace Edit

variable {β : Type}

def builder : Edit bits → Builder
  | withId _ => .id
  | withNonce _ => .nonce
  | withStatus _ _ => .status
  | withTxHash _ => .txHash

/-- The id that an edit sets. -/
def id? : Edit bits → Option String
  | withId id => some id
  | _ => none

/-- The nonce that an edit sets. -/
def nonce? : Edit bits → Option (Nonce bits)
  | withNonce nonce => some nonce
  | _ => none

/-- The status that an edit moves to. -/
def status? : Edit bits → Option Status
  | withStatus status _ => some status
  | _ => none

/-- The hash that an edit sets. -/
def txHash? : Edit bits → Option String
  | withTxHash txHash => some txHash
  | _ => none

/-- What the clock shows when an edit moves to `status`. -/
def time? (status : Status) : Edit bits → Option Timestamp
  | withStatus status' now => if status' = status then some now else none
  | _ => none

theorem time?_eq_some_iff {status : Status} {e : Edit bits} {now : Timestamp} :
    e.time? status = some now ↔ e = withStatus status now := by
  cases e <;> simp [time?]

/-- What the first of the edits that set something sets. -/
def first? (set? : Edit bits → Option β) (es : List (Edit bits)) : Option β :=
  (es.filterMap set?).head?

/-- What the last of the edits that set something sets. -/
def last? (set? : Edit bits → Option β) (es : List (Edit bits)) : Option β :=
  (es.filterMap set?).getLast?

@[simp] theorem first?_nil (set? : Edit bits → Option β) : first? set? [] = none := rfl

@[simp] theorem last?_nil (set? : Edit bits → Option β) : last? set? [] = none := rfl

@[simp] theorem first?_cons (set? : Edit bits → Option β) (e : Edit bits) (es : List (Edit bits)) :
    first? set? (e :: es) = (set? e).or (first? set? es) := by
  cases h : set? e <;> simp [first?, h]

@[simp] theorem last?_cons (set? : Edit bits → Option β) (e : Edit bits) (es : List (Edit bits)) :
    last? set? (e :: es) = (last? set? es).or (set? e) := by
  cases h : set? e <;> simp [last?, h, List.getLast?_cons, Option.or_some]

theorem first?_eq_none_iff {set? : Edit bits → Option β} {es : List (Edit bits)} :
    first? set? es = none ↔ ∀ e ∈ es, set? e = none := by
  simp [first?]

/-- The edits that one builder makes tell what is set by it. -/
theorem filterMap_eq_of_filter_eq {set? : Edit bits → Option β} {b : Builder}
    (hset : ∀ e x, set? e = some x → e.builder = b) {es es' : List (Edit bits)}
    (h : es.filter (fun e => e.builder = b) = es'.filter fun e => e.builder = b) :
    es.filterMap set? = es'.filterMap set? := by
  have honly : (fun e : Edit bits => if decide (e.builder = b) = true then set? e else none)
      = set? := by
    funext e
    by_cases hb : e.builder = b
    · simp [hb]
    · cases hx : set? e with
      | none => simp
      | some x => exact absurd (hset e x hx) hb
  rw [← honly, ← List.filterMap_filter, ← List.filterMap_filter, h]

end Edit

open Edit (first? last?)

/-- The record after an edit. -/
def edit (r : Record Account bits) : Edit bits → Record Account bits
  | .withId id => r.withId id
  | .withNonce nonce => r.withNonce nonce
  | .withStatus status now => r.withStatus status now
  | .withTxHash txHash => r.withTxHash txHash

/-- The record after some edits, one after the other. -/
def edited (r : Record Account bits) (es : List (Edit bits)) : Record Account bits :=
  es.foldl edit r

@[simp] theorem edited_nil (r : Record Account bits) : r.edited [] = r := rfl

@[simp] theorem edited_cons (r : Record Account bits) (e : Edit bits) (es : List (Edit bits)) :
    r.edited (e :: es) = (r.edit e).edited es := rfl

/-! ### Part by part -/

/-- An edit sets its part anew, but stamps a time only where there is none. -/
theorem edit_eq (r : Record Account bits) (e : Edit bits) :
    r.edit e =
      { id := e.id?.getD r.id
        account := r.account
        status := e.status?.getD r.status
        nonce := e.nonce?.or r.nonce
        created := r.created
        submitted := r.submitted.or (e.time? .submitted)
        confirmed := r.confirmed.or (e.time? .confirmed)
        txHash := e.txHash?.or r.txHash } := by
  cases e with
  | withId id => simp [edit, withId, Edit.id?, Edit.status?, Edit.nonce?, Edit.time?, Edit.txHash?]
  | withNonce nonce =>
    simp [edit, withNonce, Edit.id?, Edit.status?, Edit.nonce?, Edit.time?, Edit.txHash?]
  | withStatus status now =>
    -- Two of the statuses have a time.
    cases status <;>
      simp [edit, withStatus, Edit.id?, Edit.status?, Edit.nonce?, Edit.time?, Edit.txHash?,
        Option.or_some]
  | withTxHash txHash =>
    simp [edit, withTxHash, Edit.id?, Edit.status?, Edit.nonce?, Edit.time?, Edit.txHash?]

/-- After several edits the last one of a part has set it, and the first move to a status has
    stamped its time. -/
theorem edited_eq (r : Record Account bits) (es : List (Edit bits)) :
    r.edited es =
      { id := (last? Edit.id? es).getD r.id
        account := r.account
        status := (last? Edit.status? es).getD r.status
        nonce := (last? Edit.nonce? es).or r.nonce
        created := r.created
        submitted := r.submitted.or (first? (Edit.time? .submitted) es)
        confirmed := r.confirmed.or (first? (Edit.time? .confirmed) es)
        txHash := (last? Edit.txHash? es).or r.txHash } := by
  induction es generalizing r with
  | nil => simp
  | cons e es ih =>
    rw [edited_cons, ih, edit_eq]
    simp [Option.or_assoc, Option.getD_or]

/-- Edits of different builders change places freely. -/
theorem edited_eq_of_filter_eq (r : Record Account bits) {es es' : List (Edit bits)}
    (h : ∀ b : Builder, es.filter (fun e => e.builder = b) = es'.filter fun e => e.builder = b) :
    r.edited es = r.edited es' := by
  have hid : es.filterMap Edit.id? = es'.filterMap Edit.id? := by
    refine Edit.filterMap_eq_of_filter_eq (fun e x hx => ?_) (h .id)
    cases e with
    | withId id => rfl
    | _ => cases hx
  have hnonce : es.filterMap Edit.nonce? = es'.filterMap Edit.nonce? := by
    refine Edit.filterMap_eq_of_filter_eq (fun e x hx => ?_) (h .nonce)
    cases e with
    | withNonce nonce => rfl
    | _ => cases hx
  have hstatus : es.filterMap Edit.status? = es'.filterMap Edit.status? := by
    refine Edit.filterMap_eq_of_filter_eq (fun e x hx => ?_) (h .status)
    cases e with
    | withStatus status now => rfl
    | _ => cases hx
  have htxHash : es.filterMap Edit.txHash? = es'.filterMap Edit.txHash? := by
    refine Edit.filterMap_eq_of_filter_eq (fun e x hx => ?_) (h .txHash)
    cases e with
    | withTxHash txHash => rfl
    | _ => cases hx
  have htime (st) : es.filterMap (Edit.time? st) = es'.filterMap (Edit.time? st) := by
    refine Edit.filterMap_eq_of_filter_eq (fun e now hnow => ?_) (h .status)
    rw [Edit.time?_eq_some_iff] at hnow
    rw [hnow]
    rfl
  simp only [edited_eq, first?, last?, hid, hnonce, hstatus, htxHash, htime]

/-! ### Times -/

/-- A time that was stamped stays. -/
theorem edited_submitted_of_some {r : Record Account bits} {t : Timestamp}
    (h : r.submitted = some t) (es : List (Edit bits)) : (r.edited es).submitted = some t := by
  simp [edited_eq, h]

@[inherit_doc edited_submitted_of_some]
theorem edited_confirmed_of_some {r : Record Account bits} {t : Timestamp}
    (h : r.confirmed = some t) (es : List (Edit bits)) : (r.edited es).confirmed = some t := by
  simp [edited_eq, h]

/-- Whether a record that is submitted or confirmed has the time of that. -/
structure Timed (r : Record Account bits) : Prop where
  submitted : r.status = .submitted → r.submitted.isSome
  confirmed : r.status = .confirmed → r.confirmed.isSome

theorem Timed.edit {r : Record Account bits} (h : r.Timed) (e : Edit bits) : (r.edit e).Timed := by
  cases e with
  | withId id => exact ⟨h.submitted, h.confirmed⟩
  | withNonce nonce => exact ⟨h.submitted, h.confirmed⟩
  | withStatus status now =>
    -- A move to either of the two brings its time along, if it is not there yet.
    cases status with
    | submitted => exact ⟨fun _ => rfl, nofun⟩
    | confirmed => exact ⟨nofun, fun _ => rfl⟩
    | _ => exact ⟨nofun, nofun⟩
  | withTxHash txHash => exact ⟨h.submitted, h.confirmed⟩

theorem Timed.edited {r : Record Account bits} (h : r.Timed) (es : List (Edit bits)) :
    (r.edited es).Timed := by
  induction es generalizing r with
  | nil => exact h
  | cons e es ih => exact ih (h.edit e)

theorem timed_new (id : String) (account : Account) (now : Timestamp) :
    (new id account now : Record Account bits).Timed :=
  ⟨by simp [new], by simp [new]⟩

/-- What the edits have made of the time of a status. -/
structure StampedOnce (es : List (Edit bits)) (status : Status) (time : Option Timestamp) :
    Prop where
  /-- It is what the clock showed at the first move to the status. -/
  eq_first : time = first? (Edit.time? status) es
  /-- It is missing if there was none. -/
  eq_none_iff : time = none ↔ ∀ now, .withStatus status now ∉ es

theorem stampedOnce_first? (es : List (Edit bits)) (status : Status) :
    StampedOnce es status (first? (Edit.time? status) es) where
  eq_first := rfl
  eq_none_iff := by
    rw [Edit.first?_eq_none_iff]
    constructor
    · intro h now hmem
      have hnow : Edit.time? status (.withStatus status now : Edit bits) = some now :=
        Edit.time?_eq_some_iff.2 rfl
      rw [h _ hmem] at hnow
      cases hnow
    · intro h e he
      refine Option.eq_none_iff_forall_ne_some.2 fun now hnow => ?_
      rw [Edit.time?_eq_some_iff] at hnow
      exact h now (hnow ▸ he)

/-! ### Everything together -/

/-- What a fresh record has become by some edits. -/
structure BuiltBy (id : String) (account : Account) (now : Timestamp) (es : List (Edit bits))
    (r : Record Account bits) : Prop where
  id_eq : r.id = (last? Edit.id? es).getD id
  status_eq : r.status = (last? Edit.status? es).getD .unapproved
  nonce_eq : r.nonce = last? Edit.nonce? es
  txHash_eq : r.txHash = last? Edit.txHash? es
  account_eq : r.account = account
  created_eq : r.created = now
  submitted : StampedOnce es .submitted r.submitted
  confirmed : StampedOnce es .confirmed r.confirmed
  /-- Whatever comes later leaves the times that are there. -/
  submitted_stays : ∀ later t, r.submitted = some t → (r.edited later).submitted = some t
  confirmed_stays : ∀ later t, r.confirmed = some t → (r.edited later).confirmed = some t
  timed : r.Timed
  /-- The same edits in another order, those of one builder in the same order, build the same. -/
  reordered : ∀ es' : List (Edit bits),
    (∀ b : Builder, es'.filter (fun e => e.builder = b) = es.filter fun e => e.builder = b) →
    (new id account now).edited es' = r

/-- **Built step by step.**  A fresh record has after any edits the last id, status, nonce and hash
    that were set, and of each time the first reading of the clock; its account and its creation
    stay as they were. -/
theorem builtBy_edited (id : String) (account : Account) (now : Timestamp) (es : List (Edit bits)) :
    BuiltBy id account now es ((new id account now).edited es) where
  id_eq := by
    rw [edited_eq]
    rfl
  status_eq := by
    rw [edited_eq]
    rfl
  nonce_eq := by simp [edited_eq, new]
  txHash_eq := by simp [edited_eq, new]
  account_eq := by
    rw [edited_eq]
    rfl
  created_eq := by
    rw [edited_eq]
    rfl
  submitted := by
    rw [edited_eq]
    exact stampedOnce_first? es .submitted
  confirmed := by
    rw [edited_eq]
    exact stampedOnce_first? es .confirmed
  submitted_stays later t h := edited_submitted_of_some h later
  confirmed_stays later t h := edited_confirmed_of_some h later
  timed := (timed_new id account now).edited es
  reordered es' h := edited_eq_of_filter_eq _ h

-- A transaction that is dropped and submitted again keeps the time of its first submission.
example (now t t' t'' : Timestamp) :
    ((new "a" 7 now : Record Nat 64).edited
      [.withStatus .submitted t, .withStatus .dropped t', .withStatus .submitted t'']).submitted
      = some t := rfl

end Record

end NonceAllocation
