import WuRegalia.Kernel.Administrators
import WuRegalia.Kernel.Confinement
import WuRegalia.Kernel.Failure
import WuRegalia.Kernel.Forgery
import WuRegalia.Kernel.LoginListener
import WuRegalia.Kernel.Passwords
import WuRegalia.Kernel.Repeats
import WuRegalia.Kernel.Revocation
import WuRegalia.Kernel.SignedIn
import WuRegalia.Lending.AllOrNothing
import WuRegalia.Lending.ConcurrentEdits
import WuRegalia.Lending.Overdue
import WuRegalia.Lending.Requests
import WuRegalia.Lending.Undo
import WuRegalia.Navigation.SentBack
import WuRegalia.Navigation.Stale
import WuRegalia.Reports.DonationHistory
import WuRegalia.Reports.InventoryReports
import WuRegalia.Reports.RentalHistory
import WuRegalia.Reports.TypeFilter
import WuRegalia.Reports.UserReports
import WuRegalia.Security.ConcurrentLogins
import WuRegalia.Security.Relogin
import WuRegalia.Workflow.AnyOrder
import WuRegalia.Workflow.Notices
import WuRegalia.Workflow.Recovery
