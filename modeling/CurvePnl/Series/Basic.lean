import CurvePnl.Quantity
import CurvePnl.ValueError

/-! # Series of dated samples

A series holds samples with strictly increasing dates. The order is part of the type, so every
operation that yields a series also shows that its dates increase.
-/

namespace CurvePnl

/-- One value on one date. -/
abbrev Sample (α : Type) := Date × α

/-- Samples with strictly increasing dates. -/
structure DateSeries (α : Type) where
  samples : List (Sample α)
  increasing : samples.Pairwise fun a b => a.1 < b.1

/-- The first two neighbours of which the second is not later. -/
def firstDescent? : List (Sample α) → Option (Date × Date)
  | a :: b :: rest => if a.1 < b.1 then firstDescent? (b :: rest) else some (a.1, b.1)
  | _ => none

theorem Date.lt_trans {a b c : Date} (h : a < b) (k : b < c) : a < c := Int.lt_trans h k

theorem pairwise_of_firstDescent?_eq_none {l : List (Sample α)} (h : firstDescent? l = none) :
    l.Pairwise fun a b => a.1 < b.1 := by
  induction l with
  | nil => exact .nil
  | cons a rest ih =>
    cases rest with
    | nil => simp
    | cons b rest =>
      simp only [firstDescent?] at h
      split at h
      · rename_i ab
        have tail := ih h
        refine .cons ?_ tail
        intro c hc
        rcases List.mem_cons.1 hc with rfl | hc
        · exact ab
        · exact Date.lt_trans ab (List.rel_of_pairwise_cons tail hc)
      · cases h

namespace DateSeries

def empty : DateSeries α := ⟨[], .nil⟩

/-- The series of these samples, whose dates must increase. -/
def ofSamples (l : List (Sample α)) : Except ValueError (DateSeries α) :=
  match h : firstDescent? l with
  | none => .ok ⟨l, pairwise_of_firstDescent?_eq_none h⟩
  | some (previous, next) => .error (.unorderedSeries previous next)

/-- The series with these dates and values, which must be equally many. -/
def new (dates : List Date) (values : List α) : Except ValueError (DateSeries α) :=
  if dates.length = values.length then ofSamples (dates.zip values)
  else .error (.lengthMismatch .datesAndValues dates.length values.length)

def dates (s : DateSeries α) : List Date := s.samples.map (·.1)

def values (s : DateSeries α) : List α := s.samples.map (·.2)

def size (s : DateSeries α) : Nat := s.samples.length

def isEmpty (s : DateSeries α) : Bool := s.samples.isEmpty

def firstDate? (s : DateSeries α) : Option Date := s.samples.head?.map (·.1)

def lastDate? (s : DateSeries α) : Option Date := s.samples.getLast?.map (·.1)

/-- The value sampled on a date, if there is one. -/
def valueOn? (s : DateSeries α) (d : Date) : Option α := s.samples.lookup d

/-- The samples from position `n` on. -/
def tailFrom (s : DateSeries α) (n : Nat) : DateSeries α :=
  ⟨s.samples.drop n, s.increasing.sublist (List.drop_sublist n _)⟩

/-- The samples dated from `first` to `last`: those before are cut off, then those after. -/
def between (s : DateSeries α) (first last : Date) : DateSeries α :=
  ⟨(s.samples.dropWhile (·.1 < first)).takeWhile (·.1 ≤ last),
    s.increasing.sublist ((List.takeWhile_sublist _).trans (List.dropWhile_sublist _))⟩

/-- The same dates, each value changed on its own. -/
def mapValues (s : DateSeries α) (f : α → β) : DateSeries β :=
  ⟨s.samples.map fun a => (a.1, f a.2), List.pairwise_map.2 s.increasing⟩

/-- Every value times a factor. -/
def scale [Quantity α] (s : DateSeries α) (factor : α) : DateSeries α :=
  s.mapValues (· * factor)

/-- One over every value, none of which may be zero. -/
def reciprocal [Quantity α] (s : DateSeries α) : Except ValueError (DateSeries α) :=
  match s.samples.find? fun a => Quantity.isZero a.2 with
  | some a => .error (.zeroSample a.1)
  | none => .ok (s.mapValues (Quantity.one / ·))

/-- The series with one more sample, later than all it has. -/
def push (s : DateSeries α) (d : Date) (v : α) : Except ValueError (DateSeries α) :=
  match h : s.samples.getLast? with
  | none => .ok ⟨[(d, v)], List.pairwise_singleton _ _⟩
  | some a =>
    if later : a.1 < d then
      .ok ⟨s.samples ++ [(d, v)], by
        refine List.pairwise_append.2 ⟨s.increasing, List.pairwise_singleton _ _, ?_⟩
        intro b hb c hc
        rw [List.mem_singleton.1 hc]
        obtain ⟨front, hf⟩ := List.getLast?_eq_some_iff.1 h
        have ordered := s.increasing
        rw [hf] at ordered hb
        rcases List.mem_append.1 hb with hb | hb
        · exact Date.lt_trans
            ((List.pairwise_append.1 ordered).2.2 b hb a (List.mem_singleton_self a)) later
        · rw [List.mem_singleton.1 hb]; exact later⟩
    else .error (.unorderedSeries a.1 d)

end DateSeries

end CurvePnl
