import Storefront.Assoc
import Storefront.Calendar.Civil

/-! # Time and chance

A `Supply` is the one source of what is not determined by requests: the time, and everything that is
drawn at random.  It is reproducible: every range and every choice has a count of its own, and what
is drawn depends only on that count and on the seed. -/

namespace Storefront

/-- The source of time and chance. -/
structure Supply where
  /-- The time, in seconds since the start of 1970. -/
  now : Int
  seed : Int
  /-- Tokens to be handed out before any are made up. -/
  tokens : List String
  /-- How often a number was drawn from each range. -/
  rangeCounts : List ((Int × Int) × Nat)
  /-- How often a word was drawn from each of several lists. -/
  wordCounts : List (Nat × Nat)
  /-- How many tokens of each kind were made up. -/
  tokenCounts : List (String × Nat)
  /-- How many file names were made up. -/
  fileCount : Nat

namespace Supply

/-- A supply from which nothing has been taken. -/
def fresh (now seed : Int) (tokens : List String) : Supply := ⟨now, seed, tokens, [], [], [], 0⟩

/-- How often something was counted so far. -/
def countOf {κ : Type} [BEq κ] (counts : List (κ × Nat)) (key : κ) : Nat :=
  (Assoc.get? counts key).getD 0

/-- Draws a number from `lo` to `hi`. -/
def draw (lo hi : Int) (s : Supply) : Int × Supply :=
  let n := countOf s.rangeCounts (lo, hi)
  (lo + (s.seed + 7919 * n) % (hi - lo + 1),
    { s with rangeCounts := Assoc.put s.rangeCounts (lo, hi) (n + 1) })

/-- Draws a word from a list, which is known by its number. -/
def pick (number : Nat) (words : List String) (s : Supply) : String × Supply :=
  let n := countOf s.wordCounts number
  (words.getD ((s.seed + 7 * n) % words.length).toNat "",
    { s with wordCounts := Assoc.put s.wordCounts number (n + 1) })

/-- Makes up the ten characters of a file name. -/
def fileName (s : Supply) : String × Supply :=
  (String.ofList (Decimal.padded 10 (s.fileCount + 1)), { s with fileCount := s.fileCount + 1 })

/-- Hands out a token of a kind, which may have been handed out before. -/
def token (kind : String) (s : Supply) : String × Supply :=
  match s.tokens with
  | t :: rest => (t, { s with tokens := rest })
  | [] =>
    let n := countOf s.tokenCounts kind + 1
    (kind ++ "-" ++ Decimal.whole n, { s with tokenCounts := Assoc.put s.tokenCounts kind n })

/-- The time as a text. -/
def timestamp (s : Supply) : String := Calendar.timestamp s.now

end Supply
end Storefront
