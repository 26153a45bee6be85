import NonceAllocation.Proofs.Filecoin.Grammar
import NonceAllocation.Proofs.Ledger.Noninterference
import NonceAllocation.Proofs.Tracker.Verdict
import NonceAllocation.Registry

namespace NonceAllocation

/-!
# Requests by text — what a chain's tracker tells

A chain's tracker is asked for the account of a text.  Which family it is of shows in three places:
how the text is read, what the nodes' answers are taken for, and how the result is labelled.

* `Facade` — a family's tracker as the tracker of a chain; `EvmSource.facade`,
  `FilecoinSource.facade`;
* `Facade.Decides` — a text that names no account is refused at once, for any other the tracker's
  own decision is told;
* `EvmSource.Follows`, `EvmSource.Tells` — what becomes of the answers of an EVM chain's nodes, one
  of which is followed;
* `FilecoinSource.Tells` — what becomes of the answer of a network's node;
* `FilecoinSource.Separate` — the records of the other network make no difference;
* `ChainTracker.requests_by_text` — all of it, for both families.
-/

variable {Account : Type} {bits : Nat}

/-! ### Tickets that ask for an account -/

namespace Tracker

/-- Whether the ticket is a request for the account, in line or under way. -/
def AsksFor (t : Tracker Account bits) (k : Ticket) (a : Account) : Prop :=
  t.stage? k = some (.queuedToAsk a) ∨ t.stage? k = some (.asking a)

/-- Whether the request can go on, being first in line or having asked. -/
def IsDue (t : Tracker Account bits) (k : Ticket) (a : Account) : Prop :=
  t.stage? k = some (.queuedToAsk a) ∧ t.holds k = true ∨ t.stage? k = some (.asking a)

variable [DecidableEq Account] {t : Tracker Account bits} {l l' : Ledger Account bits} {k : Ticket}
  {a : Account}

theorem poll_of_isDue (h : t.IsDue k a) (answer : Except SourceError (Nonce bits)) :
    (t.poll (some answer) k).1 = .answered (t.ledger.nextNonce a answer) := by
  rcases h with ⟨hstage, hholds⟩ | hstage
  · exact outcome_of_answers (.queued k hstage hholds)
  · exact outcome_of_answers (.asked k hstage)

/-- Two ledgers with the same decisions for the account are the same to a request for it. -/
theorem poll_ledger_congr (h : t.AsksFor k a)
    (hdecisions : ∀ answer, l.nextNonce a answer = l'.nextNonce a answer) (source : Source bits) :
    ({ t with ledger := l }.poll source k).1 = ({ t with ledger := l' }.poll source k).1 := by
  have hstage : ∀ l : Ledger Account bits, { t with ledger := l }.stage? k = t.stage? k :=
    fun _ => rfl
  have hholds : ∀ l : Ledger Account bits, { t with ledger := l }.holds k = t.holds k :=
    fun _ => rfl
  have hanswered : ∀ answer, (Outcome.answered (l.nextNonce a answer) : Outcome bits)
      = .answered (l'.nextNonce a answer) := fun answer => congrArg _ (hdecisions answer)
  rcases h with h | h
  · -- Unless it holds the lock, it waits over either ledger.
    simp only [poll, hstage, hholds, h]
    by_cases hlock : t.holds k = true
    · rw [if_pos hlock, if_pos hlock]
      cases source with
      | none => rfl
      | some answer => exact hanswered answer
    · rw [if_neg hlock, if_neg hlock]
  · simp only [poll, hstage, h]
    cases source with
    | none => rfl
    | some answer => exact hanswered answer

theorem request_ledger_congr
    (hdecisions : ∀ answer, l.nextNonce a answer = l'.nextNonce a answer) (source : Source bits) :
    ({ t with ledger := l }.request source a).1 = ({ t with ledger := l' }.request source a).1 := by
  have hasks : (t.join (.queuedToAsk a)).2.AsksFor t.fresh a := .inl (by simp)
  exact poll_ledger_congr hasks hdecisions source

end Tracker

/-- Once the node has told a count, only the local records can be at fault. -/
theorem Ledger.inconsistent_of_counted [DecidableEq Account] {l : Ledger Account bits} {a : Account}
    {c : Nonce bits} {e : NonceError bits} (h : l.nextNonce a (.ok c) = .error e) :
    ∃ cause, e = .inconsistent cause := by
  rw [Ledger.nextNonce] at h
  cases hconfirmed : confirmedFrontier (l.query a .confirmed) with
  | error cause =>
    rw [nextNonce_of_confirmedFrontier_error hconfirmed, Except.error.injEq] at h
    exact ⟨cause, h.symm⟩
  | ok frontier =>
    rw [nextNonce_of_confirmedFrontier_ok hconfirmed] at h
    cases hrun : pendingRun (l.query a .submitted) (max c frontier) with
    | error cause =>
      rw [hrun] at h
      cases h
      exact ⟨cause, rfl⟩
    | ok n =>
      rw [hrun] at h
      cases h

/-! ### Trackers as trackers of a chain -/

/-- How a family's tracker goes by as the tracker of a chain. -/
structure Facade (Account : Type) (bits : Nat) where
  chain : Tracker Account bits → ChainTracker
  readAccount : String → Except AccountError Account
  /-- What the nodes are taken to tell of an account. -/
  count : Network → Account → Except SourceError (Nonce bits)
  nonce : Nonce bits → ChainNonce
  error : NonceError bits → ChainNonceError

def EvmSource.facade (source : EvmSource) : Facade EvmAddress 256 where
  chain := .evm source
  readAccount := evm.readAccount
  count := source.count
  nonce := .evm
  error := .evm

def FilecoinSource.facade (source : FilecoinSource) : Facade FilAddress 64 where
  chain := .filecoin source
  readAccount := (filecoin source.network).readAccount
  count := source.count
  nonce := .filecoin
  error := .filecoin

namespace Facade

variable [DecidableEq Account] (f : Facade Account bits)

/-- A tracker's result, as one of the chain. -/
def result : Except (NonceError bits) (Nonce bits) → Except ChainNonceError ChainNonce
  | .ok n => .ok (f.nonce n)
  | .error e => .error (f.error e)

/-- What a step of the tracker comes to, as a step of the chain's. -/
def outcome : Outcome bits → ChainOutcome
  | .answered r => .answered (f.result r)
  | _ => .pending

/-- What the tracker decides on a ledger, the nodes being as they are. -/
def decision (l : Ledger Account bits) (network : Network) (a : Account) :
    Except ChainNonceError ChainNonce :=
  f.result (l.nextNonce a (f.count network a))

/-- A request that has its ticket, polled again. -/
def poll (t : Tracker Account bits) (network : Option Network) (k : Ticket) (a : Account) :
    ChainOutcome × ChainTracker :=
  let (outcome, t) := t.poll (network.map fun n => f.count n a) k
  (f.outcome outcome, f.chain t)

/-- What becomes of a request for the account of the text `s`. -/
structure Decides (s : String) : Prop where
  /-- If it names no account, the reader's error is told at once, whoever has the lock and whether
      the nodes answer or not, and the tracker is left as it was. -/
  rejected : ∀ e, f.readAccount s = .error e → ∀ t network,
    (f.chain t).request network s = (.answered (.error (.account e)), f.chain t)
  /-- Otherwise it is a request to the tracker for that account. -/
  accepted : ∀ a, f.readAccount s = .ok a → ∀ t network,
    (f.chain t).request network s =
      (f.outcome (t.request (network.map fun n => f.count n a) a).1,
        f.chain (t.request (network.map fun n => f.count n a) a).2.2)
  /-- If nobody has the lock and the nodes answer, the tracker's decision is told at once. -/
  at_once : ∀ a, f.readAccount s = .ok a → ∀ t n, t.isFree = true →
    ((f.chain t).request (some n) s).1 = .answered (f.decision t.ledger n a)
  /-- So it is if the request had to wait, and then on the ledger of that moment. -/
  after_waiting : ∀ a, f.readAccount s = .ok a → ∀ t n k, t.IsDue k a →
    (f.poll t (some n) k a).1 = .answered (f.decision t.ledger n a)

variable {f}

theorem outcome_of_answers {t : Tracker Account bits} {n : Network} {a : Account}
    {o : Outcome bits} (h : t.Answers a (f.count n a) o) :
    f.outcome o = .answered (f.decision t.ledger n a) := by
  rw [Tracker.outcome_of_answers h]
  rfl

theorem decides_of {s : String}
    (hrejected : ∀ e, f.readAccount s = .error e → ∀ t network,
      (f.chain t).request network s = (.answered (.error (.account e)), f.chain t))
    (haccepted : ∀ a, f.readAccount s = .ok a → ∀ t network,
      (f.chain t).request network s =
        (f.outcome (t.request (network.map fun n => f.count n a) a).1,
          f.chain (t.request (network.map fun n => f.count n a) a).2.2)) :
    f.Decides s where
  rejected := hrejected
  accepted := haccepted
  at_once a ha t n hfree := by
    rw [haccepted a ha]
    exact outcome_of_answers (.request hfree)
  after_waiting a ha t n k hdue := by
    show f.outcome (t.poll (some (f.count n a)) k).1 = _
    rw [Tracker.poll_of_isDue hdue]
    rfl

end Facade

/-! ### The nodes of an EVM chain -/

namespace EvmSource

variable (source : EvmSource)

theorem decides (s : String) : source.facade.Decides s := by
  have houtcome : ChainTracker.evmOutcome = source.facade.outcome := by
    funext o
    rcases o with _ | _ | (e | n) <;> rfl
  refine Facade.decides_of (fun e he t network => ?_) (fun a ha t network => ?_)
  · have hread : evm.readAccount s = .error e := he
    show ChainTracker.request (.evm source t) network s = _
    simp only [ChainTracker.request, hread]
    rfl
  · have hread : evm.readAccount s = .ok a := ha
    rw [← houtcome]
    show ChainTracker.request (.evm source t) network s = _
    simp only [ChainTracker.request, hread]
    rfl

/-- Whether the decisions are those that the answer `x` of a node calls for. -/
structure Follows (n : Network) (a : EvmAddress) (x : Exchange) : Prop where
  /-- A quantity of 64 bits is the count, as the same number of 256 bits. -/
  counted : ∀ q, x.result (Quantity.decode 64) = .ok q →
    ∃ c : Nonce 256, c.val = q.val ∧
      ∀ l, source.facade.decision l n a = source.facade.result (l.nextNonce a (.ok c))
  /-- Whatever else is answered, is a failure of the network, whatever the ledger holds. -/
  failed : ∀ fault, x.result (Quantity.decode 64) = .error fault →
    ∀ l, source.facade.decision l n a = .error (.evm (.network (fault.message n.describe)))

/-- What becomes of the nodes' answers. -/
structure Tells (n : Network) (a : EvmAddress) : Prop where
  /-- The answer of one of the nodes is followed, of a sound one if there is any. -/
  by_one : source.endpoints ≠ [] → ∃ r ∈ source.requests a, source.Follows n a (n.exchange r) ∧
    ((n.exchange r).isSound = true ∨ ∀ r' ∈ source.requests a, (n.exchange r').isSound = false)
  /-- A node that is the only one is followed. -/
  by_sole : ∀ r, source.requests a = [r] → source.Follows n a (n.exchange r)
  /-- If all sound answers are alike they are followed, whatever the other nodes do. -/
  by_sound : ∀ x, x.isSound = true → (∃ r ∈ source.requests a, n.exchange r = x) →
    (∀ r ∈ source.requests a, (n.exchange r).isSound = true → n.exchange r = x) →
    source.Follows n a x
  /-- If no node tells a quantity, the fault of one of them is told, whatever the ledger holds. -/
  all_failed : source.endpoints ≠ [] →
    (∀ r ∈ source.requests a, ∃ fault,
      (n.exchange r).result (Quantity.decode 64) = .error fault) →
    ∃ r ∈ source.requests a, ∃ fault,
      (n.exchange r).result (Quantity.decode 64) = .error fault ∧
        ∀ l, source.facade.decision l n a = .error (.evm (.network (fault.message n.describe)))
  /-- An error of a node's own is never told as one. -/
  never_provider : ∀ l code message,
    source.facade.decision l n a ≠ .error (.evm (.provider code message))

variable {source} {n : Network} {a : EvmAddress}

/-- The exchange that counts is followed. -/
theorem follows (source : EvmSource) (n : Network) (a : EvmAddress) :
    source.Follows n a (n.fallback.pick ((source.requests a).map n.exchange)) where
  counted q hq := by
    have hcount : source.count n a = .ok (q.widen (by decide)) := by rw [count, hq]
    refine ⟨q.widen (by decide), Unsigned.val_widen _ q, fun l => ?_⟩
    show source.facade.result (l.nextNonce a (source.count n a)) = _
    rw [hcount]
  failed fault hfault l := by
    have hcount : source.count n a = .error (.transport (fault.message n.describe)) := by
      rw [count, hfault]
    show source.facade.result (l.nextNonce a (source.count n a)) = _
    rw [hcount]
    rfl

/-- The exchange that counts is one with a node, and a sound one if there is any. -/
theorem exists_pick (hsome : source.requests a ≠ []) :
    ∃ r ∈ source.requests a,
      n.fallback.pick ((source.requests a).map n.exchange) = n.exchange r ∧
        ((n.exchange r).isSound = true ∨
          ∀ r' ∈ source.requests a, (n.exchange r').isSound = false) := by
  have hmem := n.fallback.pick_mem ((source.requests a).map n.exchange)
    (mt List.map_eq_nil_iff.1 hsome)
  obtain ⟨r, hr, hpick⟩ := List.mem_map.1 hmem
  refine ⟨r, hr, hpick.symm, ?_⟩
  rcases Bool.eq_false_or_eq_true (n.exchange r).isSound with hsound | hsound
  · exact .inl hsound
  · -- A sound answer of another node would have been picked in its stead.
    refine .inr fun r' hr' => Bool.eq_false_iff.2 fun hr'' => ?_
    have hpicked := n.fallback.pick_sound _ _ (List.mem_map_of_mem hr') hr''
    rw [← hpick, hsound] at hpicked
    cases hpicked

theorem requests_ne_nil (hsome : source.endpoints ≠ []) : source.requests a ≠ [] :=
  mt List.map_eq_nil_iff.1 hsome

theorem follows_one (hsome : source.requests a ≠ []) :
    ∃ r ∈ source.requests a, source.Follows n a (n.exchange r) ∧
      ((n.exchange r).isSound = true ∨
        ∀ r' ∈ source.requests a, (n.exchange r').isSound = false) := by
  obtain ⟨r, hr, hpick, hsound⟩ := exists_pick (n := n) hsome
  exact ⟨r, hr, hpick ▸ source.follows n a, hsound⟩

theorem tells (source : EvmSource) (n : Network) (a : EvmAddress) : source.Tells n a where
  by_one hsome := follows_one (requests_ne_nil hsome)
  by_sole r hr := by
    have hsome : source.requests a ≠ [] := by
      rw [hr]
      exact List.cons_ne_nil r []
    obtain ⟨r', hr', hfollows, -⟩ := follows_one (n := n) hsome
    rw [hr, List.mem_singleton] at hr'
    exact hr' ▸ hfollows
  by_sound x hx hnode halike := by
    obtain ⟨r, hr, rfl⟩ := hnode
    obtain ⟨r', hr', hfollows, hsound | hnone⟩ := follows_one (n := n) (List.ne_nil_of_mem hr)
    · exact halike r' hr' hsound ▸ hfollows
    · rw [hnone r hr] at hx
      cases hx
  all_failed hsome hfaults := by
    obtain ⟨r, hr, hfollows, -⟩ := follows_one (n := n) (requests_ne_nil hsome)
    obtain ⟨fault, hfault⟩ := hfaults r hr
    exact ⟨r, hr, fault, hfault, hfollows.failed fault hfault⟩
  never_provider l code message h := by
    have hfollows := source.follows n a
    cases hresult : (n.fallback.pick ((source.requests a).map n.exchange)).result
        (Quantity.decode 64) with
    | error fault =>
      rw [hfollows.failed fault hresult l] at h
      cases h
    | ok q =>
      obtain ⟨c, -, hdecision⟩ := hfollows.counted q hresult
      rw [hdecision l] at h
      cases hnonce : l.nextNonce a (.ok c) with
      | ok nonce =>
        rw [hnonce] at h
        cases h
      | error e =>
        obtain ⟨cause, rfl⟩ := Ledger.inconsistent_of_counted hnonce
        rw [hnonce] at h
        cases h

end EvmSource

/-! ### The node of a Filecoin network -/

namespace FilecoinSource

theorem decides (source : FilecoinSource) (s : String) : source.facade.Decides s := by
  have houtcome : ChainTracker.filecoinOutcome = source.facade.outcome := by
    funext o
    rcases o with _ | _ | (e | n) <;> rfl
  refine Facade.decides_of (fun e he t network => ?_) (fun a ha t network => ?_)
  · have hread : (filecoin source.network).readAccount s = .error e := he
    show ChainTracker.request (.filecoin source t) network s = _
    simp only [ChainTracker.request, hread]
    rfl
  · have hread : (filecoin source.network).readAccount s = .ok a := ha
    rw [← houtcome]
    show ChainTracker.request (.filecoin source t) network s = _
    simp only [ChainTracker.request, hread]
    rfl

/-- What becomes of the node's answer. -/
structure Tells (source : FilecoinSource) (n : Network) (a : FilAddress) : Prop where
  /-- A number of 64 bits is the count. -/
  counted : ∀ q, (n.exchange (source.request a)).result (.unsigned 64) = .ok q →
    ∀ l, source.facade.decision l n a = source.facade.result (l.nextNonce a (.ok q))
  /-- An error of the node's own is told with its code and its message, whatever the ledger
      holds. -/
  refused : ∀ e, (n.exchange (source.request a)).result (.unsigned 64) = .error (.refused e) →
    ∀ l, source.facade.decision l n a = .error (.filecoin (.provider e.code e.message))
  /-- So is every answer that carries an error object. -/
  error_answer : ∀ status body e, n.exchange (source.request a) = .answered status body →
    200 ≤ status → status < 300 → Decoder.run Payload.decodeAll body = .ok (.inl (.error e)) →
    ∀ l, source.facade.decision l n a = .error (.filecoin (.provider e.code e.message))
  /-- Whatever else is answered, is a failure of the network, whatever the ledger holds. -/
  failed : ∀ fault, (n.exchange (source.request a)).result (.unsigned 64) = .error fault →
    (∀ e, fault ≠ .refused e) →
    ∀ l, source.facade.decision l n a = .error (.filecoin (.network (fault.message n.describe)))

variable {source : FilecoinSource} {n : Network} {a : FilAddress}

theorem count_of_refused {e : NodeError}
    (h : (n.exchange (source.request a)).result (.unsigned 64) = .error (.refused e)) :
    source.count n a = .error (.provider e.code e.message) := by
  rw [count, h]

theorem count_of_fault {fault : NodeFault}
    (h : (n.exchange (source.request a)).result (.unsigned 64) = .error fault)
    (hfault : ∀ e, fault ≠ .refused e) :
    source.count n a = .error (.transport (fault.message n.describe)) := by
  rw [count, h]
  cases fault with
  | refused e => exact absurd rfl (hfault e)
  | _ => rfl

theorem decision_of_refused {e : NodeError}
    (h : (n.exchange (source.request a)).result (.unsigned 64) = .error (.refused e))
    (l : Ledger FilAddress 64) :
    source.facade.decision l n a = .error (.filecoin (.provider e.code e.message)) := by
  show source.facade.result (l.nextNonce a (source.count n a)) = _
  rw [count_of_refused h]
  rfl

theorem tells (source : FilecoinSource) (n : Network) (a : FilAddress) : source.Tells n a where
  counted q hq l := by
    have hcount : source.count n a = .ok q := by rw [count, hq]
    show source.facade.result (l.nextNonce a (source.count n a)) = _
    rw [hcount]
  refused e he l := decision_of_refused he l
  error_answer status body e hanswer hlow hhigh hbody l := by
    refine decision_of_refused ?_ l
    rw [hanswer, Exchange.result, if_pos ⟨hlow, hhigh⟩, Exchange.bodyResult, hbody]
  failed fault hfault hother l := by
    show source.facade.result (l.nextNonce a (source.count n a)) = _
    rw [count_of_fault hfault hother]
    rfl

/-- Whether the records of the other network make no difference to a request by text, whoever has
    the lock: two ledgers with the same records of the tracker's own network are the same to it. -/
def Separate (source : FilecoinSource) (s : String) : Prop :=
  ∀ l l' : Ledger FilAddress 64,
    (∀ r : Record FilAddress 64, r.account.network = source.network →
      (r ∈ l.records ↔ r ∈ l'.records)) →
    ∀ (t : Tracker FilAddress 64) (network : Option Network),
      ((source.facade.chain { t with ledger := l }).request network s).1
          = ((source.facade.chain { t with ledger := l' }).request network s).1 ∧
        ∀ k a, source.facade.readAccount s = .ok a → t.AsksFor k a →
          (source.facade.poll { t with ledger := l } network k a).1
            = (source.facade.poll { t with ledger := l' } network k a).1

theorem separate (source : FilecoinSource) (s : String) : source.Separate s := by
  intro l l' hsame t network
  have hdecisions : ∀ a, source.facade.readAccount s = .ok a →
      ∀ answer, l.nextNonce a answer = l'.nextNonce a answer := by
    intro a ha answer
    have hlive : Ledger.SameLive a l l' := by
      rintro r ⟨rfl, -⟩
      have hread : (filecoin source.network).readAccount s = .ok r.account := ha
      exact hsame r (FilAddress.readAccount_eq_ok_iff.1 hread).2
    exact hlive.nextNonce_eq answer
  constructor
  · cases hread : source.facade.readAccount s with
    | error e =>
      rw [(source.decides s).rejected e hread, (source.decides s).rejected e hread]
    | ok a =>
      rw [(source.decides s).accepted a hread, (source.decides s).accepted a hread]
      exact congrArg source.facade.outcome (Tracker.request_ledger_congr (hdecisions a hread) _)
  · intro k a ha hasks
    exact congrArg source.facade.outcome (Tracker.poll_ledger_congr hasks (hdecisions a ha) _)

end FilecoinSource

/-! ### Both families -/

/-- **Requests by text.**  A text that names no account is refused at once.  For any other the
    tracker's decision is told, a failure of the nodes as such, and on a Filecoin network the
    records of the other one make no difference. -/
theorem ChainTracker.requests_by_text :
    (∀ (source : EvmSource) (s : String),
      source.facade.Decides s ∧ ∀ n a, source.Tells n a) ∧
    ∀ (source : FilecoinSource) (s : String),
      source.facade.Decides s ∧ (∀ n a, source.Tells n a) ∧ source.Separate s :=
  ⟨fun source s => ⟨source.decides s, source.tells⟩,
    fun source s => ⟨source.decides s, source.tells, source.separate s⟩⟩

namespace ChainTracker

/-- A node on the web. -/
def webNode (host : String) : Endpoint where
  url := ⟨"http", some (.ofHost (.name host)), .segments [""], none, none⟩
  rateLimit := none

/-- An EVM chain with two nodes. -/
def twoNodes : EvmSource where
  chain := ⟨1⟩
  endpoints := [webNode "a.example", webNode "b.example"]
  blockTag := .latest

/-- The answer of a node that has counted two transactions. -/
def twoCounted : Exchange :=
  .answered 200 "\x7b\"jsonrpc\":\"2.0\",\"id\":0,\"result\":\"0x2\"\x7d"

/-- The first of the nodes is down, the second one answers. -/
def halfUp : Network where
  exchange r :=
    if r.url = (webNode "a.example").url then .failed "connection refused" else twoCounted
  fallback := .inOrder
  describe _ _ := "not JSON"

def zeroAccount : EvmAddress := ⟨List.replicate 20 0, rfl⟩

/-- The node that is up is followed: its count is told for an account without records. -/
theorem requests_by_text_halfUp :
    ((ChainTracker.evm twoNodes (.new .empty)).request (some halfUp) zeroAccount.text).1
      = .answered (.ok (.evm 2)) := by
  obtain ⟨hdecides, htells⟩ := requests_by_text.1 twoNodes zeroAccount.text
  have hfollows : twoNodes.Follows halfUp zeroAccount twoCounted := by
    refine (htells halfUp zeroAccount).by_sound twoCounted ?_ ?_ ?_
    · decide +kernel
    · exact ⟨_, List.mem_cons_of_mem _ List.mem_cons_self, rfl⟩
    · decide +kernel
  obtain ⟨c, hc, hdecision⟩ := hfollows.counted 2 (by decide +kernel)
  obtain rfl : c = 2 := Unsigned.ext hc
  have hread : twoNodes.facade.readAccount zeroAccount.text = .ok zeroAccount := by decide +kernel
  have hnext : (.empty : Ledger EvmAddress 256).nextNonce zeroAccount (.ok 2) = .ok 2 := by
    decide +kernel
  calc _ = ChainOutcome.answered (twoNodes.facade.decision .empty halfUp zeroAccount) :=
        hdecides.at_once zeroAccount hread (.new .empty) halfUp rfl
    _ = .answered (.ok (.evm 2)) := by
        rw [hdecision, hnext]
        rfl

end ChainTracker

end NonceAllocation
