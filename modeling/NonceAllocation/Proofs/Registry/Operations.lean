import NonceAllocation.Proofs.Registry.Requests

namespace NonceAllocation

/-!
# Operations on a chain — writing its ledger and asking its nodes

The ledger of a chain is written and its tracker is asked, in any order.

* `Facade.told`, `ChainTracker.told` — what a request by text comes to if nothing stands in its way;
* `ChainTracker.KeptBy`, `ChainTracker.keptBy_request` — what a request leaves as it was;
* `Wallet.Operation`, `ChainTracker.after` — what is done with a wallet, and what several operations
  make of one chain's tracker;
* `ChainTracker.ledger_after`, `ChainTracker.isFree_after` — it reads the ledger that was written
  last, and nobody is left in its line as long as its nodes answer;
* `ChainTracker.told_after` — so it tells what the tracker that was built would tell over that
  ledger.
-/

variable {Account : Type} {bits : Nat}

/-! ### One request -/

namespace Tracker

variable [DecidableEq Account] (t : Tracker Account bits) (a : Account)

theorem ledger_request (source : Source bits) : (t.request source a).2.2.ledger = t.ledger :=
  (step_poll (t.join (.queuedToAsk a)).2 source t.fresh).ledger_eq

variable {t}

/-- A request that meets a free lock and a source that answers is gone afterwards. -/
theorem isFree_request (hfree : t.isFree = true) (answer : Except SourceError (Nonce bits)) :
    (t.request (some answer) a).2.2.isFree = true := by
  have hholds : (t.join (.queuedToAsk a)).2.holds t.fresh = true := holds_fresh_of_isFree _ hfree
  have hstage : (t.join (.queuedToAsk a)).2.stage? t.fresh = some (.queuedToAsk a) := by simp
  -- The newcomer is first in line, is answered in the same step, and leaves.
  have hleft : (t.request (some answer) a).2.2
      = ((t.join (.queuedToAsk a)).2.ask t.fresh a (.asking a)).leave t.fresh := by
    show ((t.join (.queuedToAsk a)).2.poll (some answer) t.fresh).2 = _
    simp only [poll, hstage, if_pos hholds, await]
  rw [hleft]
  show ((t.line ++ [t.fresh]).filter fun j => j != t.fresh).isEmpty = true
  rw [List.isEmpty_iff.1 hfree]
  simp

end Tracker

namespace Facade

variable [DecidableEq Account] (f : Facade Account bits)

/-- What a request by text comes to over a ledger: the refusal of the text, or a decision. -/
def told (l : Ledger Account bits) (n : Network) (s : String) : Except ChainNonceError ChainNonce :=
  match f.readAccount s with
  | .error e => .error (.account e)
  | .ok a => f.decision l n a

variable {f} {s : String} {t : Tracker Account bits}

/-- What a request leaves behind. -/
theorem Decides.exists_request (h : f.Decides s) (t : Tracker Account bits)
    (network : Option Network) :
    ∃ t', ((f.chain t).request network s).2 = f.chain t' ∧ t'.ledger = t.ledger ∧
      (network.isSome = true → t.isFree = true → t'.isFree = true) := by
  cases hread : f.readAccount s with
  | error e => exact ⟨t, by rw [h.rejected e hread], rfl, fun _ hfree => hfree⟩
  | ok a =>
    refine ⟨_, by rw [h.accepted a hread], t.ledger_request a _, fun hsome hfree => ?_⟩
    obtain ⟨n, rfl⟩ := Option.isSome_iff_exists.1 hsome
    exact Tracker.isFree_request a hfree (f.count n a)

theorem Decides.request_eq_told (h : f.Decides s) (hfree : t.isFree = true) (n : Network) :
    ((f.chain t).request (some n) s).1 = .answered (f.told t.ledger n s) := by
  rw [told]
  cases hread : f.readAccount s with
  | error e => rw [h.rejected e hread]
  | ok a => exact h.at_once a hread t n hfree

end Facade

/-! ### Trackers of either family, under operations -/

/-- A ledger of either family. -/
inductive ChainLedger where
  | evm (ledger : Ledger EvmAddress 256)
  | filecoin (ledger : Ledger FilAddress 64)

namespace ChainTracker

/-- The nodes that a tracker asks. -/
def nodes : ChainTracker → EvmSource ⊕ FilecoinSource
  | evm source _ => .inl source
  | filecoin source _ => .inr source

/-- The ledger that a tracker reads. -/
def ledger : ChainTracker → ChainLedger
  | evm _ tracker => .evm tracker.ledger
  | filecoin _ tracker => .filecoin tracker.ledger

/-- Whether nobody holds the lock. -/
def isFree : ChainTracker → Bool
  | evm _ tracker => tracker.isFree
  | filecoin _ tracker => tracker.isFree

/-- Whether a ledger is of the tracker's family. -/
def takes : ChainTracker → ChainLedger → Bool
  | evm _ _, .evm _ => true
  | filecoin _ _, .filecoin _ => true
  | _, _ => false

/-- The tracker with another ledger of its family. -/
def write : ChainTracker → ChainLedger → ChainTracker
  | evm source tracker, .evm ledger => .evm source (tracker.mapLedger fun _ => ledger)
  | filecoin source tracker, .filecoin ledger =>
    .filecoin source (tracker.mapLedger fun _ => ledger)
  | t, _ => t

/-- Whether a text is refused as one that names no account of the chain. -/
def Refuses (t : ChainTracker) (s : String) (e : AccountError) : Prop :=
  match t with
  | evm source _ => source.facade.readAccount s = .error e
  | filecoin source _ => source.facade.readAccount s = .error e

/-- What a request by text comes to if nothing stands in its way. -/
def told (t : ChainTracker) (n : Network) (s : String) : Except ChainNonceError ChainNonce :=
  match t with
  | evm source tracker => source.facade.told tracker.ledger n s
  | filecoin source tracker => source.facade.told tracker.ledger n s

variable {t t' : ChainTracker} {l : ChainLedger} {s : String} {e : AccountError}

/-! What depends on the nodes and the ledger alone. -/

theorem id_congr (h : t.nodes = t'.nodes) : t.id = t'.id := by
  cases t <;> cases t' <;> cases h <;> rfl

theorem takes_congr (h : t.nodes = t'.nodes) (l : ChainLedger) : t.takes l = t'.takes l := by
  cases t <;> cases t' <;> cases h <;> cases l <;> rfl

theorem refuses_congr (h : t.nodes = t'.nodes) : t.Refuses s e ↔ t'.Refuses s e := by
  cases t <;> cases t' <;> cases h <;> rfl

theorem told_congr (hnodes : t.nodes = t'.nodes) (hledger : t.ledger = t'.ledger) (n : Network)
    (s : String) : t.told n s = t'.told n s := by
  cases t with
  | evm source tracker =>
    cases t' <;> cases hnodes
    simp only [ledger, ChainLedger.evm.injEq] at hledger
    simp only [told, hledger]
  | filecoin source tracker =>
    cases t' <;> cases hnodes
    simp only [ledger, ChainLedger.filecoin.injEq] at hledger
    simp only [told, hledger]

/-! Writing and asking. -/

@[simp] theorem nodes_write : (t.write l).nodes = t.nodes := by
  cases t <;> cases l <;> rfl

@[simp] theorem isFree_write : (t.write l).isFree = t.isFree := by
  cases t <;> cases l <;> rfl

theorem ledger_write : (t.write l).ledger = if t.takes l then l else t.ledger := by
  cases t <;> cases l <;> rfl

/-- What a request leaves behind. -/
structure KeptBy (t t' : ChainTracker) (network : Option Network) : Prop where
  nodes : t'.nodes = t.nodes
  ledger : t'.ledger = t.ledger
  free : network.isSome = true → t.isFree = true → t'.isFree = true

theorem keptBy_request (t : ChainTracker) (network : Option Network) (s : String) :
    t.KeptBy (t.request network s).2 network := by
  cases t with
  | evm source tracker =>
    obtain ⟨tracker', hafter, hledger, hfree⟩ :=
      (source.decides s).exists_request tracker network
    have hafter : (request (.evm source tracker) network s).2 = .evm source tracker' := hafter
    rw [hafter]
    exact ⟨rfl, congrArg ChainLedger.evm hledger, hfree⟩
  | filecoin source tracker =>
    obtain ⟨tracker', hafter, hledger, hfree⟩ :=
      (source.decides s).exists_request tracker network
    have hafter : (request (.filecoin source tracker) network s).2 = .filecoin source tracker' :=
      hafter
    rw [hafter]
    exact ⟨rfl, congrArg ChainLedger.filecoin hledger, hfree⟩

theorem request_eq_told (hfree : t.isFree = true) (n : Network) (s : String) :
    (t.request (some n) s).1 = .answered (t.told n s) := by
  cases t with
  | evm source tracker => exact (source.decides s).request_eq_told hfree n
  | filecoin source tracker => exact (source.decides s).request_eq_told hfree n

/-- A refusal does not depend on the lock or the nodes, and changes nothing. -/
theorem request_of_refuses (h : t.Refuses s e) (network : Option Network) :
    t.request network s = (.answered (.error (.account e)), t) := by
  cases t with
  | evm source tracker => exact (source.decides s).rejected e h tracker network
  | filecoin source tracker => exact (source.decides s).rejected e h tracker network

end ChainTracker

/-! ### Operations -/

namespace Wallet

/-- Something that is done with a wallet. -/
inductive Operation where
  /-- Writes a ledger's next state. -/
  | write (chain : ChainId) (ledger : ChainLedger)
  /-- Asks for the nonce of an account, polling once. -/
  | request (network : Option Network) (chain : ChainId) (account : String)

namespace Operation

/-- What an operation does to the tracker of the chain `i`. -/
def on (i : ChainId) (t : ChainTracker) : Operation → ChainTracker
  | write c ledger => if i = c then t.write ledger else t
  | request network c account => if i = c then (t.request network account).2 else t

/-- The ledger that an operation writes for the tracker of the chain `i`. -/
def written? (i : ChainId) (t : ChainTracker) : Operation → Option ChainLedger
  | write c ledger => if i = c ∧ t.takes ledger = true then some ledger else none
  | request _ _ _ => none

/-- The ledger that was written last for the tracker of the chain `i`. -/
def lastWritten? (i : ChainId) (t : ChainTracker) (ops : List Operation) : Option ChainLedger :=
  ops.reverse.findSome? (written? i t)

variable {i : ChainId} {t t' : ChainTracker} {op : Operation} {ops : List Operation}

theorem written?_congr (h : t.nodes = t'.nodes) : written? i t = written? i t' := by
  funext op
  cases op with
  | write c ledger => simp only [written?, ChainTracker.takes_congr h]
  | request network c account => rfl

theorem lastWritten?_cons :
    lastWritten? i t (op :: ops) = (lastWritten? i t ops).or (op.written? i t) := by
  rw [lastWritten?, List.reverse_cons, List.findSome?_append, List.findSome?_singleton]
  rfl

theorem takes_of_lastWritten? {l : ChainLedger} (h : lastWritten? i t ops = some l) :
    t.takes l = true := by
  obtain ⟨op, -, hop⟩ := List.exists_of_findSome?_eq_some h
  cases op with
  | write c ledger =>
    rw [written?] at hop
    split at hop
    · rename_i htakes
      cases hop
      exact htakes.2
    · cases hop
  | request network c account => cases hop

theorem nodes_on : (op.on i t).nodes = t.nodes := by
  cases op with
  | write c ledger =>
    rw [on]
    split
    · exact ChainTracker.nodes_write
    · rfl
  | request network c account =>
    rw [on]
    split
    · exact (t.keptBy_request network account).nodes
    · rfl

theorem ledger_on : (op.on i t).ledger = (op.written? i t).getD t.ledger := by
  cases op with
  | write c ledger =>
    by_cases hi : i = c
    · -- A ledger of the other family is not the tracker's.
      rw [on, written?, if_pos hi, ChainTracker.ledger_write]
      cases htakes : t.takes ledger <;> simp [hi]
    · simp [on, written?, hi]
  | request network c account =>
    rw [on]
    split
    · exact (t.keptBy_request network account).ledger
    · rfl

/-- Whoever is answered at once leaves nobody in line. -/
theorem isFree_on (hprompt : ∀ s, op ≠ .request none i s) (hfree : t.isFree = true) :
    (op.on i t).isFree = true := by
  cases op with
  | write c ledger =>
    rw [on]
    split
    · exact ChainTracker.isFree_write.trans hfree
    · exact hfree
  | request network c account =>
    rw [on]
    split
    · rename_i hi
      subst hi
      refine (t.keptBy_request network account).free ?_ hfree
      rw [Option.isSome_iff_ne_none]
      rintro rfl
      exact hprompt account rfl
    · exact hfree

end Operation

end Wallet

namespace ChainTracker

open Wallet (Operation)
open Wallet.Operation

/-- The tracker of the chain `i` after some operations. -/
def after (i : ChainId) (t : ChainTracker) (ops : List Operation) : ChainTracker :=
  ops.foldl (Operation.on i) t

variable {i : ChainId} {t : ChainTracker} {ops : List Operation}

theorem nodes_after : (t.after i ops).nodes = t.nodes := by
  induction ops generalizing t with
  | nil => rfl
  | cons op ops ih => exact ih.trans nodes_on

/-- A tracker reads the ledger that was written last. -/
theorem ledger_after : (t.after i ops).ledger = (lastWritten? i t ops).getD t.ledger := by
  induction ops generalizing t with
  | nil => rfl
  | cons op ops ih =>
    show ((op.on i t).after i ops).ledger = _
    -- What is written for a tracker depends on its nodes only, which the first operation has left.
    rw [ih, lastWritten?_cons, ledger_on, lastWritten?, written?_congr nodes_on, Option.getD_or]
    rfl

theorem isFree_after (hprompt : ∀ s, .request none i s ∉ ops) (hfree : t.isFree = true) :
    (t.after i ops).isFree = true := by
  induction ops generalizing t with
  | nil => exact hfree
  | cons op ops ih =>
    refine ih (fun s hs => hprompt s (List.mem_cons_of_mem op hs)) (isFree_on ?_ hfree)
    rintro s rfl
    exact hprompt s List.mem_cons_self

/-- The tracker tells what the one that was built would tell with the last ledger in its hands. -/
theorem told_after (n : Network) (s : String) :
    (t.after i ops).told n s = ((lastWritten? i t ops).elim t t.write).told n s := by
  cases hlast : lastWritten? i t ops with
  | none =>
    refine told_congr nodes_after ?_ n s
    rw [ledger_after, hlast]
    rfl
  | some l =>
    refine told_congr (nodes_after.trans nodes_write.symm) ?_ n s
    rw [ledger_after, hlast, ledger_write, if_pos (takes_of_lastWritten? hlast)]
    rfl

end ChainTracker

end NonceAllocation
