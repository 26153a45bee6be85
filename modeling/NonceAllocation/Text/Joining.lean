import NonceAllocation.Text.Table

namespace NonceAllocation

/-!
# Joining letters

The letters of some scripts join their neighbours, and two invisible characters say whether they do.
These mean something only between letters that could join, or behind a mark that takes a vowel away.

* `Joining.allowed` — whether every joiner in a text means something.
-/

/-- How a letter joins its neighbours. -/
inductive Joining where
  | both
  | toNext
  | toPrevious
  /-- A mark, which joins whatever it stands on. -/
  | through
deriving DecidableEq

namespace Joining

/-- Which characters join: 0 on both sides, 1 to the next, 2 to the previous one, 3 marks. -/
def joiners : List Run := Table.runs [
   "ad.1.3 252.70.3 113.7.3 107.2d.3 1.1.3 1.2.3 1.2.3 1.1.3 48.b.3 1.1.3 3.1.0 1.4.2 0.1.0",
   "0.1.2 0.1.0 0.1.2 0.5.0 0.4.2 0.d.0 1.7.0 0.1.2 0.2.0 0.15.3 e.2.0 0.1.3 0.3.2 1.3.2 0.10.0",
   "0.12.2 0.26.0 0.1.2 0.2.0 0.9.2 0.1.0 0.1.2 0.1.0 0.1.2 0.2.0 0.2.2 1.1.2 0.7.3 2.6.3 2.2.3",
   "1.4.3 0.2.2 a.3.0 2.1.0 f.1.3 0.1.2 0.1.3 0.3.0 0.5.2 0.4.0 0.1.2 0.9.0 0.1.2 0.1.0 0.1.2",
   "0.1.0 0.1.2 0.2.0 0.1.2 0.1b.3 2.1.2 0.b.0 0.3.2 0.f.0 0.2.2 0.4.0 0.1.2 0.1.0 0.2.2 0.3.0",
   "0.2.2 0.6.0 26.b.3 19.21.0 0.9.3 9.1.3 18.4.3 1.9.3 1.3.3 1.5.3 12.1.2 0.5.0 0.2.2 0.1.0",
   "0.1.2 0.a.0 0.1.2 0.1.0 0.3.2 0.3.3 4.1.0 1.4.0 1.1.2 0.1.0 0.2.2 5.13.2 3.1.0 2.5.0 0.1.2",
   "0.1.0 7.9.3 0.a.0 0.3.2 1.1.2 0.2.0 0.2.2 0.6.0 0.1.2 0.f.0 1.18.3 1.20.3 37.1.3 1.1.3 4.8.3",
   "4.1.3 3.7.3 a.2.3 1d.1.3 3a.1.3 4.4.3 8.1.3 14.2.3 1a.1.3 2.2.3 39.1.3 4.2.3 4.2.3 2.3.3",
   "3.1.3 1e.2.3 3.1.3 b.2.3 39.1.3 4.5.3 1.2.3 4.1.3 14.2.3 16.6.3 1.1.3 3a.1.3 2.1.3 1.4.3",
   "8.1.3 7.2.3 b.2.3 1e.1.3 3d.1.3 c.1.3 32.1.3 3.1.3 37.1.3 1.3.3 5.3.3 1.4.3 7.2.3 b.2.3",
   "1d.1.3 3a.1.3 2.1.3 6.1.3 5.2.3 14.2.3 1c.2.3 39.2.3 4.4.3 8.1.3 14.2.3 1d.1.3 48.1.3 7.3.3",
   "1.1.3 5a.1.3 2.7.3 c.8.3 62.1.3 2.9.3 b.7.3 49.2.3 1b.1.3 1.1.3 1.1.3 37.e.3 1.5.3 1.2.3",
   "5.b.3 1.24.3 9.1.3 66.4.3 1.6.3 1.2.3 2.2.3 19.2.3 4.3.3 10.4.3 d.1.3 2.2.3 6.1.3 f.1.3",
   "2bf.3.3 3b2.3.3 1d.2.3 1e.2.3 1e.2.3 40.2.3 1.7.3 8.1.3 2.b.3 9.1.3 29.1.0 3.3.3 1.1.3",
   "10.59.0 c.2.3 0.22.0 0.1.3 0.1.0 75.3.3 4.2.3 9.1.3 6.3.3 db.2.3 2.1.3 3a.1.3 1.7.3 1.1.3",
   "1.1.3 2.8.3 6.a.3 2.1.3 30.2e.3 2.c.3 14.4.3 30.1.3 1.5.3 1.1.3 5.1.3 28.9.3 c.2.3 20.4.3",
   "2.2.3 1.3.3 38.1.3 1.2.3 3.1.3 1.3.3 3a.8.3 2.2.3 98.3.3 1.d.3 1.7.3 4.1.3 6.1.3 3.2.3",
   "c6.40.3 20b.1.3 2.2.3 1a.5.3 31.5.3 5.6.3 60.21.3 bfe.3.3 8d.1.3 60.20.3 22a.4.3 6b.2.3",
   "75d4.4.3 1.a.3 20.2.3 50.2.3 110.1.3 3.1.3 4.1.3 19.2.3 5.1.3 13.32.0 0.1.1 51.2.3 1a.12.3",
   "d.1.3 26.8.3 19.b.3 2e.3.3 30.1.3 2.4.3 2.2.3 27.1.3 43.6.3 2.2.3 2.2.3 c.1.3 8.1.3 2f.1.3",
   "33.1.3 1.3.3 2.2.3 5.2.3 1.1.3 2a.2.3 8.1.3 ee.1.3 2.1.3 4.1.3 4f30.1.3 2e1.10.3 10.10.3",
   "cf.1.3 f9.3.3 201.1.3 e2.1.3 95.5.3 686.3.3 1.2.3 5.4.3 28.3.3 4.1.3 80.5.0 0.1.2 1.1.2",
   "1.2.2 2.1.1 0.5.2 0.4.0 0.1.1 0.5.0 0.1.2 0.3.0 0.1.2 2.1.2 0.2.3 4.4.0 0.1.2 90.1.0 0.1.2",
   "0.1.0 0.3.2 0.3.0 0.1.2 0.2.0 0.1.2 0.1.0 0.2.2 0.1.0 0.1.2 17.4.2 0.2.0 151.1.1 0.21.0",
   "0.1.2 0.1.0 0.4.3 41.5.3 13d.2.3 15.1.2 0.2.0 1.2.0 32.6.3 30.3.0 0.1.2 0.11.0 1.b.3 0.3.0",
   "0.1.2 1b.4.0 0.2.2 0.c.0 0.4.3 2a.1.0 1.2.0 0.3.2 1.1.0 0.2.2 0.2.0 0.1.2 0.2.0 1.1.0 0.2.2",
   "0.1.0 4.1.2 0.1.0 0.1.1 35.1.3 36.f.3 29.1.3 2.2.3 a.3.3 31.4.3 2.2.3 7.1.3 3d.3.3 24.5.3",
   "1.8.3 3e.1.3 c.2.3 34.9.3 a.4.3 2.1.3 5f.3.3 2.1.3 1.2.3 6.1.3 2.1.3 9d.1.3 3.8.3 15.2.3",
   "39.2.3 3.1.3 25.7.3 3.5.3 46.6.3 d.1.3 1.1.3 1.1.3 e.2.3 55.8.3 2.3.3 1.1.3 17.1.3 54.6.3",
   "1.1.3 4.2.3 1.2.3 ee.4.3 6.2.3 1.2.3 1b.2.3 55.8.3 2.1.3 1.2.3 6a.1.3 1.1.3 2.6.3 1.1.3",
   "65.1.3 1.1.3 2.4.3 1.5.3 103.9.3 1.2.3 100.2.3 1.1.3 4.1.3 90.4.3 2.2.3 4.1.3 20.a.3 28.6.3",
   "2.4.3 8.1.3 9.6.3 2.3.3 2e.d.3 1.2.3 c6.1.3 1.3.3 1.1.3 c9.7.3 1.6.3 1.1.3 52.16.3 2.7.3",
   "1.2.3 1.2.3 7a.6.3 3.1.3 1.2.3 1.7.3 1.1.3 48.2.3 3.1.3 1.1.3 15b.2.3 b.2.3 34.5.3 5.1.3",
   "1.1.3 17.1.3 14d5.11.3 6.f.3 2cc8.c.3 3.3.3 9c0.5.3 3b.7.3 418.1.3 3f.4.3 51.1.3 4cb8.2.3",
   "1.4.3 125c.2e.3 2.17.3 220.3.3 9.10.3 2.7.3 1e.4.3 94.3.3 7bb.37.3 4.32.3 8.1.3 e.1.3 16.5.3",
   "1.f.3 550.7.3 1.11.3 2.7.3 1.2.3 1.5.3 64.1.3 a0.7.3 177.1.3 3d.4.3 1fc.4.3 fe.2.3 f3.1.3",
   "2.1.3 7.2.3 5.1.3 1da.7.3 29.44.0 0.8.3 c16b5.1.3 1e.60.3 80.f0.3"]

/-- How a character joins its neighbours, if it does. -/
def of? (c : Char) : Option Joining :=
  match (Table.find? joiners c).bind fun r => r.payload.head? with
  | some 0 => some both
  | some 1 => some toNext
  | some 2 => some toPrevious
  | some 3 => some through
  | _ => none

/-- The first of the characters that is no mark. -/
def firstLetter? (cs : List Char) : Option Joining :=
  ((cs.map of?).find? fun j => !(j == some through)).join

/-- Whether letters could join between the texts `before`, the nearest character first, and
    `after`. -/
def couldJoin (before after : List Char) : Bool :=
  (match firstLetter? before with
    | some both => true
    | some toNext => true
    | _ => false) &&
  match firstLetter? after with
    | some both => true
    | some toPrevious => true
    | _ => false

/-- Whether every joiner means something; `before` came before, the nearest character first, and
    `takesVowel` says whether a mark takes a vowel away. -/
def allowed (takesVowel : Char → Bool) (before : List Char) : List Char → Bool
  | [] => true
  | c :: cs =>
    (if c = '\u200c' then before.head?.any takesVowel || couldJoin before cs
      else if c = '\u200d' then before.head?.any takesVowel
      else true) && allowed takesVowel (c :: before) cs

end Joining

end NonceAllocation
