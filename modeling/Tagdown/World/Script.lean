/-
  Tagdown.World.Script

  Programs as scripts of effects. A script tells what it does to the world one
  effect at a time, and how it goes on with each answer. It is a value, so what
  a program does can be computed for a given world (`Tagdown.World.Machine`)
  as well as carried out.
-/

import Tagdown.Calendar.Instant
import Tagdown.World.FileTree

namespace Tagdown

/-- A part of the program that reports steps of its work. -/
inductive StepSource where
  | program
  | conversion
  | statistics
  deriving DecidableEq, Repr

/-- The name of a source. -/
def StepSource.name : StepSource → Text
  | .program => "mdwriter".toList
  | .conversion => "mdwriter_babel::translator".toList
  | .statistics => "mdwriter_babel::stats".toList

/-- A program that ends with a value of `α` or exits before. -/
inductive Script (α : Type) where
  /-- Ends with a value. -/
  | done (a : α)
  /-- Exits with a code. -/
  | exit (code : Nat)
  /-- Writes to the standard output. -/
  | out (t : Text) (next : Script α)
  /-- Writes to the standard error. -/
  | err (t : Text) (next : Script α)
  /-- Reports a step of its work to those who trace it. -/
  | trace (source : StepSource) (t : Text) (next : Script α)
  /-- Reads the text of a file. -/
  | readFile (path : Text) (next : Except FileFault Text → Script α)
  /-- Reads the text of the standard input. -/
  | readInput (next : Except FileFault Text → Script α)
  /-- Asks whether a file stands at a path. -/
  | isFile (path : Text) (next : Bool → Script α)
  /-- Asks for the number of bytes of a file. -/
  | fileSize (path : Text) (next : Except FileFault Nat → Script α)
  /-- Writes a text to a file. -/
  | writeFile (path content : Text) (next : Except FileFault Unit → Script α)
  /-- Asks for the time. -/
  | now (next : Instant → Script α)
  /-- Asks whether the standard output is a terminal. -/
  | isTerminal (next : Bool → Script α)
  /-- Asks whether texts are styled where nothing was chosen. -/
  | isStyled (next : Bool → Script α)

namespace Script

variable {α β : Type}

/-- The script that goes on with `f` where the first one ends. -/
def bind : Script α → (α → Script β) → Script β
  | done a, f => f a
  | exit code, _ => exit code
  | out t next, f => out t (next.bind f)
  | err t next, f => err t (next.bind f)
  | trace source t next, f => trace source t (next.bind f)
  | readFile path next, f => readFile path fun r => (next r).bind f
  | readInput next, f => readInput fun r => (next r).bind f
  | isFile path next, f => isFile path fun r => (next r).bind f
  | fileSize path next, f => fileSize path fun r => (next r).bind f
  | writeFile path content next, f => writeFile path content fun r => (next r).bind f
  | now next, f => now fun r => (next r).bind f
  | isTerminal next, f => isTerminal fun r => (next r).bind f
  | isStyled next, f => isStyled fun r => (next r).bind f

instance : Monad Script where
  pure := done
  bind := bind

/-- Writes a line to the standard output. -/
def printLine (t : Text) : Script Unit :=
  out (t ++ ['\n']) (done ())

/-- Writes a line to the standard error. -/
def complain (t : Text) : Script Unit :=
  err (t ++ ['\n']) (done ())

/-- Reports a step of the work of `source`. -/
def report (source : StepSource) (t : Text) : Script Unit :=
  trace source t (done ())

/-- Says what went wrong and exits. -/
def fail (t : Text) : Script α :=
  err (t ++ ['\n']) (exit 1)

/-- Goes through a list. -/
def forEach (f : β → Script Unit) : List β → Script Unit
  | [] => done ()
  | b :: rest => (f b).bind fun _ => forEach f rest

end Script
end Tagdown
