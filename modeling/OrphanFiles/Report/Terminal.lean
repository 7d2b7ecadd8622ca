import OrphanFiles.Report.Layout

/-! Printing a report where it may be shown on a terminal. -/
namespace OrphanFiles

/-- Where the output goes, and the value of the variable by which a user declines
colour. Any value declines, the empty one too. -/
structure Terminal where
  interactive : Bool
  noColor : Option Text

def Terminal.showsColor (terminal : Terminal) : Bool :=
  terminal.interactive && terminal.noColor.isNone

/-- The printed report. A choice of colour overrides what the terminal suggests. -/
def Report.print? (report : Report) (terminal : Terminal) (color? : Option Bool) : Option Text :=
  (report.render? (color?.getD terminal.showsColor)).map (· ++ ['\n'])

end OrphanFiles
