import NonceAllocation.Text.Table

namespace NonceAllocation

/-!
# Directions of writing

Characters are written from left to right or from right to left, and numbers and signs follow their
neighbours.  Where both directions meet in one line, the parts between points must be such that
nobody can mistake where one ends.

* `Direction.of` — the direction of a character;
* `Direction.isClear` — whether a part keeps to one direction, from its first character to its last.
-/

/-- The direction of a character. -/
inductive Direction where
  | left
  | right
  | arabic
  | arabicNumber
  | number
  | sign
  | separator
  | unit
  | neutral
  | boundary
  | mark
  | other
deriving DecidableEq

namespace Direction

/-- The directions of characters that are not written from left to right. -/
def directions : List Run := Table.runs [
   "0.9.8 0.5.a 0.e.8 0.5.a 0.2.7 0.3.6 0.5.7 0.1.4 0.1.5 0.1.4 0.2.5 0.a.3 0.1.5 0.6.7 1a.6.7",
   "1a.4.7 0.6.8 0.1.a 0.1a.8 0.1.5 0.1.7 0.4.6 0.4.7 1.2.7 0.1.8 0.2.7 0.2.6 0.2.3 0.1.7 1.3.7",
   "0.1.3 1.5.7 17.1.7 1f.1.7 1c1.2.7 7.e.7 2.e.7 5.9.7 1.11.7 0.70.9 4.2.7 8.1.7 5.2.7 1.1.7",
   "6e.1.7 8c.7.9 100.1.7 2.2.7 0.1.6 1.2d.9 0.1.0 0.1.9 0.1.0 0.2.9 0.1.0 0.2.9 0.1.0 0.1.9",
   "8.1b.0 4.6.0 b.6.2 0.2.7 0.1.1 0.2.6 0.1.1 0.1.5 0.1.1 0.2.7 0.b.9 0.30.1 0.15.9 0.a.2 0.1.6",
   "0.2.2 0.3.1 0.1.9 0.65.1 0.7.9 0.1.2 0.1.7 0.6.9 0.2.1 0.2.9 0.1.7 0.4.9 0.2.1 0.a.3 0.14.1",
   "1.2.1 0.1.9 0.1e.1 0.1b.9 2.59.1 0.b.9 0.1.1 e.2b.0 0.9.9 0.2.0 0.4.7 0.1.0 2.1.9 0.18.0",
   "0.4.9 0.1.0 0.9.9 0.1.0 0.3.9 0.1.0 0.5.9 2.f.0 1.19.0 0.3.9 2.1.0 1.b.1 5.20.1 0.2.2 5.9.9",
   "0.2a.1 0.18.9 0.1.2 0.20.9 37.1.9 1.1.9 4.8.9 4.1.9 3.7.9 a.2.9 1d.1.9 3a.1.9 4.4.9 8.1.9",
   "14.2.9 e.2.6 7.1.6 2.1.9 2.2.9 39.1.9 4.2.9 4.2.9 2.3.9 3.1.9 1e.2.9 3.1.9 b.2.9 39.1.9",
   "4.5.9 1.2.9 4.1.9 14.2.9 d.1.6 8.6.9 1.1.9 3a.1.9 2.1.9 1.4.9 8.1.9 7.2.9 b.2.9 1e.1.9",
   "3d.1.9 c.1.9 25.6.7 0.1.6 0.1.7 5.1.9 3.1.9 37.1.9 1.3.9 5.3.9 1.4.9 7.2.9 b.2.9 14.7.7",
   "2.1.9 3a.1.9 f.2.9 14.2.9 1c.2.9 39.2.9 4.4.9 8.1.9 14.2.9 1d.1.9 48.1.9 7.3.9 1.1.9 5a.1.9",
   "2.7.9 4.1.6 7.8.9 62.1.9 2.9.9 b.7.9 49.2.9 1b.1.9 1.1.9 1.1.9 0.4.7 33.e.9 1.5.9 1.2.9",
   "5.b.9 1.24.9 9.1.9 66.4.9 1.6.9 1.2.9 2.2.9 19.2.9 4.3.9 10.4.9 d.1.9 2.2.9 6.1.9 f.1.9",
   "2bf.3.9 30.a.7 66.1.7 27f.1.a 1a.2.7 75.3.9 1d.2.9 1e.2.9 1e.2.9 40.2.9 1.7.9 8.1.9 2.b.9",
   "7.1.6 1.1.9 12.a.7 6.b.7 0.3.9 0.1.8 0.1.9 75.2.9 22.1.9 76.3.9 4.2.9 9.1.9 6.3.9 4.1.7",
   "3.2.7 98.22.7 17.2.9 2.1.9 3a.1.9 1.7.9 1.1.9 1.1.9 2.8.9 6.a.9 2.1.9 30.2e.9 2.c.9 14.4.9",
   "30.1.9 1.5.9 1.1.9 5.1.9 b.2.7 1b.9.9 b.1.7 0.2.9 20.4.9 2.2.9 1.3.9 38.1.9 1.2.9 3.1.9",
   "1.3.9 3a.8.9 2.2.9 98.3.9 1.d.9 1.7.9 4.1.9 6.1.9 3.2.9 c6.40.9 1bd.1.7 1.3.7 b.3.7 d.3.7",
   "d.3.7 d.2.7 1.b.a 0.3.8 1.1.0 0.18.7 0.7.a 0.1.5 0.5.6 0.f.7 0.1.5 0.1a.7 0.1.a 0.5.8 1.4.a",
   "0.6.8 0.1.3 3.6.3 0.2.4 0.3.7 1.a.3 0.2.4 0.3.7 11.21.6 0.1.7 e.21.9 f.2.7 1.4.7 1.2.7 a.1.7",
   "1.3.7 5.6.7 1.1.7 1.1.7 1.1.7 4.1.6 b.2.7 4.5.7 5.4.7 2.10.7 29.3.7 4.82.7 0.1.4 0.1.6",
   "0.122.7 45.1a.7 1.94.7 16.b.7 15.28.7 0.14.3 4e.1c2.7 1.153.7 100.274.7 2.8a.7 e5.6.7 4.3.9",
   "7.7.7 7f.1.9 60.20.9 0.5e.7 22.1a.7 1.59.7 c.d6.7 1a.10.7 0.1.a 0.4.7 3.19.7 9.4.9 2.1.7",
   "5.2.7 5.3.7 59.2.9 0.2.7 3.1.7 5a.1.7 c4.26.7 9.1.7 2d.2.7 31.10.7 1c.3.7 32.f.7 c.4.7",
   "a7.4.7 63.2.7 1f.1.7 19c0.40.7 5690.37.7 146.3.7 5f.4.9 0.1.7 0.a.9 0.2.7 1e.2.9 50.2.9",
   "e.22.7 66.1.7 79.1.9 3.1.9 4.1.9 19.2.9 1.4.7 0.1.9 b.2.6 3a.4.7 4c.2.9 1a.12.9 d.1.9 26.8.9",
   "19.b.9 2e.3.9 30.1.9 2.4.9 2.2.9 27.1.9 43.6.9 2.2.9 2.2.9 c.1.9 8.1.9 2f.1.9 33.1.9 1.3.9",
   "2.2.9 5.2.9 1.1.9 2a.2.9 8.1.9 73.2.7 79.1.9 2.1.9 4.1.9 4f2f.1.0 0.1.9 0.a.0 0.1.4 0.d.0",
   "1.5.0 1.1.0 1.2.0 1.2.0 1.a.0 0.1ee.1 0.12.7 0.7f.1 0.1.7 20.d.1 0.3.7 0.10.9 0.a.7 6.10.9",
   "0.20.7 0.1.5 0.1.7 0.1.5 1.1.7 0.1.5 0.9.7 0.1.6 0.2.7 0.2.4 0.3.7 1.1.7 0.2.6 0.1.7 4.5.1",
   "1.87.1 2.1.8 1.2.7 0.3.6 0.5.7 0.1.4 0.1.5 0.1.4 0.2.5 0.a.3 0.1.5 0.6.7 1a.6.7 1a.b.7",
   "7a.2.6 0.3.7 0.2.6 1.7.7 a.5.7 103.1.7 3e.4d.7 3.d.7 3.1.7 5c.1.9 e2.1.9 0.1b.3 7a.5.9",
   "485.6.0 2.1.0 1.2c.0 1.2.0 3.1.0 2.17.0 1.48.0 8.9.0 30.13.0 1.2.0 5.21.0 3.1.7 0.1a.0",
   "5.1b.0 26.38.0 4.14.0 2.2f.0 0.3.9 1.2.9 5.4.9 0.4.0 1.3.0 1.1d.0 2.3.9 4.1.9 0.9.0 7.9.0",
   "7.40.0 20.25.0 0.2.9 4.c.0 9.36.0 3.7.7 0.16.0 2.1b.0 5.1a.0 7.4.0 c.7.0 50.49.0 37.33.0",
   "d.33.0 7.6.0 0.24.1 0.4.9 8.a.2 6.26.0 3.5.9 0.18.0 8.2.0 d0.1f.2 1.2a.0 1.2.9 0.1.0 2.2.0",
   "10.6.1 8.9.1 21.6.9 0.28.0 8.16.1 0.b.9 0.9.1 16.12.0 0.4.9 0.4.0 26.1c.0 14.17.0 a.1.9",
   "36.f.9 b.14.7 a.1.9 2.2.9 a.3.9 31.4.9 2.2.9 7.1.9 3d.3.9 24.5.9 1.8.9 3e.1.9 c.2.9 34.9.9",
   "a.4.9 2.1.9 5f.3.9 2.1.9 1.2.9 6.1.9 2.1.9 9d.1.9 3.8.9 15.2.9 39.2.9 3.1.9 25.7.9 3.5.9",
   "46.6.9 d.1.9 1.1.9 1.1.9 1.2.7 1.2.7 8.2.9 55.8.9 2.3.9 1.1.9 17.1.9 54.6.9 1.1.9 4.2.9",
   "1.2.9 ee.4.9 6.2.9 1.2.9 1b.2.9 55.8.9 2.1.9 1.2.9 1f.d.7 3e.1.9 1.1.9 2.6.9 1.1.9 65.3.9",
   "2.4.9 1.5.9 103.9.9 1.2.9 100.2.9 1.1.9 4.1.9 90.4.9 2.2.9 4.1.9 20.6.9 2.2.9 28.6.9 2.4.9",
   "8.1.9 9.6.9 2.3.9 2e.d.9 1.2.9 66.a.7 56.1.9 1.3.9 1.1.9 7a.1.7 4e.7.9 1.6.9 54.16.9 2.7.9",
   "1.2.9 1.2.9 7a.6.9 3.1.9 1.2.9 1.7.9 1.1.9 48.2.9 3.1.9 1.1.9 15b.2.9 b.2.9 34.5.9 5.1.9",
   "1.1.9 0.d.7 a.1.9 7a.8.7 0.4.6 0.11.7 144e.1.9 6.f.9 2cc8.c.9 3.3.9 9c0.5.9 3b.7.9 236.3.7",
   "1df.1.9 3f.4.9 4f.1.7 1.1.9 4cb8.2.9 1.4.8 f5c.f0.7 a.3.7 3.1b4.7 6.17.7 f.11.7 f.2e.9",
   "2.17.9 220.3.9 9.8.8 0.8.9 2.7.9 1e.4.9 3b.2.7 15.42.7 0.3.9 0.1.7 ba.57.7 384.1.7 39.1.7",
   "39.1.7 39.1.7 39.1.7 a.32.3 200.37.9 4.32.9 8.1.9 e.1.9 16.5.9 1.f.9 550.7.9 1.11.9 2.7.9",
   "1.2.9 1.5.9 64.1.9 a0.7.9 177.1.9 3d.4.9 f.1.6 1ec.4.9 fe.2.9 f.1.7 e3.1.9 2.1.9 7.2.9 5.1.9",
   "10a.c5.0 2.9.0 0.7.9 29.44.0 0.7.9 0.1.0 4.a.0 4.2.0 311.44.1 4c.3d.1 c2.4.1 1.1b.1 1.2.1",
   "1.1.1 2.1.1 1.a.1 1.4.1 1.1.1 1.1.1 6.1.1 4.1.1 1.1.1 1.1.1 1.3.1 1.2.1 1.1.1 2.1.1 1.1.1",
   "1.1.1 1.1.1 1.1.1 1.2.1 1.1.1 2.4.1 1.7.1 1.4.1 1.4.1 1.1.1 1.a.1 1.11.1 5.3.1 1.5.1 1.11.1",
   "34.2.7 10e.2c.7 4.64.7 c.f.7 2.f.7 1.f.7 1.25.7 a.b.3 0.5.7 1f.1.7 3a.6.7 3d.1.7 b2.6.7",
   "9a.3d9.7 3.11.7 3.d.7 3.da.7 6.c.7 4.1.7 f.c.7 4.38.7 8.a.7 6.28.7 8.1e.7 2.c.7 4.2.7 e.9.7",
   "27.158.7 8.e.7 2.d.7 3.b.7 3.39.7 1.1.7 4.10.7 2.c.7 4.a.7 7.93.7 1.5c.7 0.a.3 0.1.7",
   "c0406.1.8 1e.60.8 80.f0.9"]

/-- The direction of a character. -/
def of (c : Char) : Direction :=
  match (Table.find? directions c).bind fun r => r.payload.head? with
  | some 0 => right
  | some 1 => arabic
  | some 2 => arabicNumber
  | some 3 => number
  | some 4 => sign
  | some 5 => separator
  | some 6 => unit
  | some 7 => neutral
  | some 8 => boundary
  | some 9 => mark
  | some _ => other
  | none => left

/-- Whether a character makes a line one that is also written from right to left. -/
def turns (d : Direction) : Bool := d == right || d == arabic || d == arabicNumber

/-- Whether a character follows its neighbours in either direction. -/
def follows (d : Direction) : Bool :=
  d == number || d == sign || d == separator || d == unit || d == neutral || d == boundary
    || d == mark

/-- The direction of the last character that is no mark. -/
def last? (ds : List Direction) : Option Direction := ds.reverse.find? fun d => !(d == mark)

/-- Whether a part keeps to one direction. -/
def isClear (ds : List Direction) : Bool :=
  match ds with
  | [] => true
  | left :: _ =>
    ds.all (fun d => d == left || d.follows) &&
      (last? ds).any fun d => d == left || d == number
  | first :: _ =>
    (first == right || first == arabic) && ds.all (fun d => d.turns || d.follows) &&
      ((last? ds).any fun d => d.turns || d == number) &&
      !(ds.contains number && ds.contains arabicNumber)

end Direction

end NonceAllocation
