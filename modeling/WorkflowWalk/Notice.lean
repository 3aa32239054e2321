/-!
# Notices

What is told about the course of the work besides its result. A notice carries the part of the
program that it comes from, how weighty it is and its text. Notices never bear on a result.
-/

namespace WorkflowWalk

namespace Notice

inductive Topic
  | conditions
  | choice
  | walk
  | compiler
deriving DecidableEq, Repr

inductive Level
  | debug
  | info
  | warning
deriving DecidableEq, Repr

end Notice

structure Notice where
  topic : Notice.Topic
  level : Notice.Level
  text : String
deriving DecidableEq, Repr

end WorkflowWalk
