import PoolConsole.Operation.Nodes
import PoolConsole.Operation.Session
import PoolConsole.Operation.Views
import PoolConsole.Operation.Wizard

namespace PoolConsole

open Console

inductive SessionActivity where
  | loadConnection
  | selectSpace (space : String)
  | selectNamespace (choice : Option String)
  | refreshStatus
  | pauseAgent
  | resumeAgent
  | setQuota (space : String) (limits : QuotaLimits)
  | authorize (key : String)
  | signOut
  | setDarkMode (darkMode : Bool)
  | setAccessKey (accessKey : Option String)

namespace SessionActivity

abbrev Result : SessionActivity → Type
  | loadConnection => Outcome Unit
  | selectSpace _ => Unit
  | selectNamespace _ => Scope
  | refreshStatus | pauseAgent | resumeAgent => Outcome PoolStatus
  | setQuota _ _ => Outcome Unit
  | authorize _ => Bool
  | signOut => Unit
  | setDarkMode _ | setAccessKey _ => Outcome Unit

def action : (a : SessionActivity) → Action Console a.Result
  | loadConnection => Operation.loadConnection
  | selectSpace space => Operation.selectSpace space
  | selectNamespace choice => Operation.selectNamespace choice
  | refreshStatus => Operation.refreshStatus
  | pauseAgent => Operation.pauseAgent
  | resumeAgent => Operation.resumeAgent
  | setQuota space limits => Operation.setQuota space limits
  | authorize key => Operation.authorize key
  | signOut => Operation.signOut
  | setDarkMode darkMode => Operation.setDarkMode darkMode
  | setAccessKey accessKey => Operation.setAccessKey accessKey

end SessionActivity

inductive JobActivity where
  | load
  | setNamespace (choice : Option String)
  | setPage (page : Nat)
  | toggleSelect (id : String)
  | toggleSelectAll
  | delete (job : Job)
  | deleteSelected

namespace JobActivity

abbrev Result : JobActivity → Type
  | load | setNamespace _ => Outcome LoadOutcome
  | setPage _ | toggleSelectAll => Unit
  | toggleSelect _ => Bool
  | delete _ => Outcome Unit
  | deleteSelected => BulkOutcome

def action : (a : JobActivity) → Action Console a.Result
  | load => Operation.loadJobs
  | setNamespace choice => Operation.setNamespace choice
  | setPage page => onJobs (.modify fun b => b.setPage page)
  | toggleSelect id => onJobs (.update fun b => b.toggleSelect id)
  | toggleSelectAll => onJobs (.modify JobBoard.toggleSelectAll)
  | delete job => Operation.deleteJob job
  | deleteSelected => Operation.deleteSelected

end JobActivity

/-- What is submitted: the job that the wizard has been filled in for, or the text of a template. -/
inductive Submission where
  | filledIn
  | custom (template : String) (values : Members) (defaults : Option Members)

inductive WizardActivity where
  | reopen
  | close
  | next
  | back
  | select (template : String)
  | setParam (name raw : String)
  | toggleParam (name : String)
  | addTarget (text : String)
  | removeTarget (key value : String)
  | setMode (mode : LabelMode)
  | setName (name : String)
  | submit (what : Submission)

namespace WizardActivity

abbrev Result : WizardActivity → Type
  | reopen | close => Unit
  | next => Outcome WizardStep
  | back => WizardStep
  | select _ => Outcome LoadOutcome
  | setParam _ _ => Outcome Unit
  | toggleParam _ => Outcome Bool
  | addTarget _ => Outcome Unit
  | removeTarget _ _ | setMode _ | setName _ => Unit
  | submit _ => Outcome Notice

def action : (a : WizardActivity) → Action Console a.Result
  | reopen => Operation.openWizard
  | close => Operation.closeWizard
  | next => onWizard (.update Wizard.next)
  | back => onWizard (.update Wizard.back)
  | select template => Operation.selectTemplate template
  | setParam name raw => onWizard (.update fun w => w.setParam name raw)
  | toggleParam name => onWizard (.update fun w => w.toggleParam name)
  | addTarget text => onWizard (.update fun w => w.addTarget text)
  | removeTarget key value => onWizard (.modify fun w => w.removeTarget key value)
  | setMode mode => onWizard (.modify fun w => w.setMode mode)
  | setName name => onWizard (.modify fun w => w.setName name)
  | submit .filledIn => Operation.submit
  | submit (.custom template values defaults) => Operation.submitCustom template values defaults

end WizardActivity

inductive NodeActivity where
  | load
  | setCordoned (node : String) (cordoned : Bool)
  | toggleCordon (node : String)
  | delete (node : String)
  | loadDetail (node : String)
  | addLabel (node key value : String)

namespace NodeActivity

abbrev Result : NodeActivity → Type
  | load | loadDetail _ => Outcome LoadOutcome
  | setCordoned _ _ | delete _ => Outcome Unit
  | toggleCordon _ => Outcome Bool
  | addLabel _ _ _ => Outcome NodeDetail

def action : (a : NodeActivity) → Action Console a.Result
  | load => Operation.loadNodes
  | setCordoned node cordoned => Operation.setCordoned node cordoned
  | toggleCordon node => Operation.toggleCordon node
  | delete node => Operation.deleteNode node
  | loadDetail node => Operation.loadDetail node
  | addLabel node key value => Operation.addLabel node key value

end NodeActivity

inductive ViewActivity where
  | loadServices
  | loadOverview
  | loadMonitorDevices
  | loadUsage (now : Instant)
  | loadSeries (now : Instant)
  | refreshMonitor (now : Instant)
  | applyFilters (filters : MonitorFilters) (now : Instant)
  | refreshLogs
  | openLogs (target : LogTarget) (tail : Nat)
  | setTail (tail : Nat)
  | closeLogs

namespace ViewActivity

abbrev Result : ViewActivity → Type
  | loadServices | loadOverview | loadMonitorDevices => Outcome LoadOutcome
  | loadUsage _ | loadSeries _ => Outcome LoadOutcome
  | refreshMonitor _ | applyFilters _ _ => Outcome Unit
  | refreshLogs | openLogs _ _ => Outcome LoadOutcome
  | setTail _ | closeLogs => Unit

def action : (a : ViewActivity) → Action Console a.Result
  | loadServices => Operation.loadServices
  | loadOverview => Operation.loadOverview
  | loadMonitorDevices => Operation.loadMonitorDevices
  | loadUsage now => Operation.loadUsage now
  | loadSeries now => Operation.loadSeries now
  | refreshMonitor now => Operation.refreshMonitor now
  | applyFilters filters now => Operation.applyFilters filters now
  | refreshLogs => Operation.refreshLogs
  | openLogs target tail => Operation.openLogs target tail
  | setTail tail => Operation.setTail tail
  | closeLogs => Operation.closeLogs

end ViewActivity

inductive Activity where
  | session (a : SessionActivity)
  | jobs (a : JobActivity)
  | wizard (a : WizardActivity)
  | nodes (a : NodeActivity)
  | views (a : ViewActivity)

namespace Activity

abbrev Result : Activity → Type
  | session a => a.Result
  | jobs a => a.Result
  | wizard a => a.Result
  | nodes a => a.Result
  | views a => a.Result

def action : (a : Activity) → Action Console a.Result
  | session a => a.action
  | jobs a => a.action
  | wizard a => a.action
  | nodes a => a.action
  | views a => a.action

end Activity

end PoolConsole
