import PoolConsole.Action
import PoolConsole.Board.Jobs
import PoolConsole.Board.Nodes
import PoolConsole.Board.Session
import PoolConsole.Board.Views
import PoolConsole.Board.Wizard

namespace PoolConsole

structure Console where
  session : Session := {}
  jobs : JobBoard := {}
  wizard : Wizard := {}
  nodes : NodeBoard := {}
  services : ServiceBoard := {}
  overview : OverviewBoard := {}
  monitor : Monitor := {}
  logs : LogPoller := {}
  deriving Inhabited

namespace Console

/-- A console on which nothing has been loaded yet. -/
def fresh (ui : UiConfig) (preferences : PreferenceStore) : Console where
  session := { ui, preferences }
  monitor := { filters := { range := ui.timeRange } }
  logs := { tail := ui.logTail }

def scope (c : Console) : Scope :=
  c.session.filter.scope

/-- The page of jobs that is shown. -/
def jobPage (c : Console) : JobPage :=
  c.jobs.currentPage c.session.ui.pageSize

/-- The services that are shown. -/
def visibleServices (c : Console) : List Service :=
  c.services.visible c.scope

variable {α : Type}

def onSession : Action Session α → Action Console α :=
  .onPart (·.session) fun session c => { c with session }

def onJobs : Action JobBoard α → Action Console α :=
  .onPart (·.jobs) fun jobs c => { c with jobs }

def onWizard : Action Wizard α → Action Console α :=
  .onPart (·.wizard) fun wizard c => { c with wizard }

def onNodes : Action NodeBoard α → Action Console α :=
  .onPart (·.nodes) fun nodes c => { c with nodes }

def onServices : Action ServiceBoard α → Action Console α :=
  .onPart (·.services) fun services c => { c with services }

def onOverview : Action OverviewBoard α → Action Console α :=
  .onPart (·.overview) fun overview c => { c with overview }

def onMonitor : Action Monitor α → Action Console α :=
  .onPart (·.monitor) fun monitor c => { c with monitor }

def onLogs : Action LogPoller α → Action Console α :=
  .onPart (·.logs) fun logs c => { c with logs }

end Console

end PoolConsole
