import SchedProbe.Failure
import SchedProbe.Names
import SchedProbe.TaskTrace.Clock

/-! The configuration of an inspection: names for ids, how run times are measured, and the symbols under
which the target keeps its diagnostics. -/

set_option autoImplicit false

namespace SchedProbe

structure SchedulerSymbols where
  tagPost : Symbol := "SchedulerBasicP__TT_POST"
  tagRun : Symbol := "SchedulerBasicP__TT_RUN"
  tagEnd : Symbol := "SchedulerBasicP__TT_END"
  numTasks : Symbol := "SchedulerBasicP__NUM_TASKS"
  noTask : Symbol := "SchedulerBasicP__NO_TASK"
  traceNext : Symbol := "SchedulerBasicP__nxt_tt"
  trace : Symbol := "SchedulerBasicP__task_trace"
  queueHead : Symbol := "SchedulerBasicP__m_head"
  queueTail : Symbol := "SchedulerBasicP__m_tail"
  queueNext : Symbol := "SchedulerBasicP__m_next"
  deriving DecidableEq, Repr

structure TimerSymbols where
  tagStartTicks : Symbol := "VirtualizeTimerImplP__0__TVT_START_LT"
  tagStartMicros : Symbol := "VirtualizeTimerImplP__0__TVT_START_USECS"
  tagStopped : Symbol := "VirtualizeTimerImplP__0__TVT_STOPPED"
  tagFired : Symbol := "VirtualizeTimerImplP__0__TVT_FIRED"
  tagEnd : Symbol := "VirtualizeTimerImplP__0__TVT_END"
  tagDelta : Symbol := "VirtualizeTimerImplP__0__TVT_DELTA"
  traceNext : Symbol := "VirtualizeTimerImplP__0__nxt_vt"
  trace : Symbol := "VirtualizeTimerImplP__0__vtimer_trace"
  numTimers : Symbol := "VirtualizeTimerImplP__0__NUM_TIMERS"
  descriptors : Symbol := "VirtualizeTimerImplP__0__m_timers"
  deriving DecidableEq, Repr

structure SymbolTable where
  scheduler : SchedulerSymbols := {}
  timers : TimerSymbols := {}
  deriving DecidableEq, Repr

structure Config where
  tasks : Names := .empty
  timers : Names := .empty
  runTiming : RunTiming := .legacy
  symbols : SymbolTable := {}
  deriving DecidableEq

end SchedProbe
