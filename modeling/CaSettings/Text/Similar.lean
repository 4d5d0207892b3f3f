/-!
# Similar words

How alike two words are, for suggestions after a misspelt option. The longest
run of characters that both words share is matched first, the leftmost one if
there are several; then what lies to the left of it in both words, and what
lies to the right of it, in the same way. Words are similar when the matched
characters make up at least three fifths of the characters of both.

* **`longestBlock`** — the run that is matched first;
* **`matched`** — how many characters of one word are matched in the end;
* **`isSimilar`** — the comparison with three fifths.
-/

namespace CaSettings.Text

/-- How many characters two texts share at their start. -/
def sharedStart : List Char → List Char → Nat
  | a :: as, b :: bs => if a = b then sharedStart as bs + 1 else 0
  | _, _ => 0

/-- A shared run: where it starts in either word, and its length. -/
structure Block where
  left : Nat
  right : Nat
  size : Nat

/-- The best of `best` and the runs from the start of `as` to the places of
`bs`, which lie at `i` and from `j` on in the words. -/
def bestAt (as : List Char) (i : Nat) : Nat → List Char → Block → Block
  | _, [], best => best
  | j, b :: bs, best =>
    let size := sharedStart as (b :: bs)
    bestAt as i (j + 1) bs (if best.size < size then ⟨i, j, size⟩ else best)

/-- The best of `best` and the runs from the places of `as`, which lie from
`i` on in the first word, to the places of `bs`. -/
def bestFrom (bs : List Char) : Nat → List Char → Block → Block
  | _, [], best => best
  | i, a :: as, best => bestFrom bs (i + 1) as (bestAt (a :: as) i 0 bs best)

/-- The longest run that two words share, leftmost in the first word and then
in the second. -/
def longestBlock (as bs : List Char) : Block := bestFrom bs 0 as ⟨0, 0, 0⟩

/-- How many characters of two words are matched, at most `depth` runs deep. -/
def matchedWithin : Nat → List Char → List Char → Nat
  | 0, _, _ => 0
  | depth + 1, as, bs =>
    let block := longestBlock as bs
    if block.size = 0 then 0
    else
      block.size + matchedWithin depth (as.take block.left) (bs.take block.right) +
        matchedWithin depth (as.drop (block.left + block.size))
          (bs.drop (block.right + block.size))

/-- How many characters of two words are matched. Every run takes at least one
character of the first word, so its length bounds the depth. -/
def matched (as bs : List Char) : Nat := matchedWithin as.length as bs

/-- Whether the matched characters are at least three fifths of both words.
Words of very different length are dismissed by their lengths alone, because
no more can match than the shorter word has. -/
def isSimilar (a b : String) : Bool :=
  let total := a.length + b.length
  3 * total ≤ 10 * min a.length b.length && 3 * total ≤ 10 * matched a.toList b.toList

end CaSettings.Text
