/-
Sessions: traversals of single nodes, run without a dialogue around them. The
host holds a session, pulls results from it and answers its offers. A session
that has failed is over.
-/

import Parley.Engine
import Parley.Offer

namespace Parley

/-- A traversal and the offers it has made, the earliest first. -/
structure Session where
  traversal : Traversal
  offers : List Offer := []

namespace Session

variable {Host : Type}

/-- A session that is about to traverse a node. -/
def start (node : Node) : Session := { traversal := .fresh node }

/-- Ends a session. -/
def close (session : Session) : Session := { session with traversal := .ended }

/-- Notes the offer that an event makes. -/
def offersAfter (offers : List Offer) : Event → List Offer
  | .options texts => offers ++ [{ count := texts.length }]
  | _ => offers

/-- Pulls the next result of a session. -/
def pull (call : Text → List Value → Act Host Value) (session : Session)
    (world : World Host) : Except Fault (Option Result) × Session × World Host :=
  match Engine.pull call (Offer.latest? session.offers) session.traversal world with
  | .error fault world => (.error fault, session.close, world)
  | .ok none world => (.ok none, session.close, world)
  | .ok (some (.event event, traversal)) world =>
    (.ok (some (.event event)), ⟨traversal, offersAfter session.offers event⟩, world)
  | .ok (some (.complete next, traversal)) world =>
    (.ok (some (.complete next)), { session with traversal }, world)

/-- Answers one of the offers of a session. -/
def choose (session : Session) (place : Nat) (index : Literal) : Except Fault Session := do
  let offers ← Offer.chooseIn session.offers place index
  return { session with offers }

end Session

end Parley
