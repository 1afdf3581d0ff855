import SccpConfig.CString
import SccpConfig.Value
import SccpConfig.Objects
import SccpConfig.Scan
import SccpConfig.Converters
import SccpConfig.Button
import SccpConfig.Tables
import SccpConfig.SetValue
import SccpConfig.Defaults
import SccpConfig.Apply
import SccpConfig.SoftKey
import SccpConfig.Reload
import SccpConfig.General
import SccpConfig.SetValueReport
import SccpConfig.MemberPass
import SccpConfig.SetValueFlags
import SccpConfig.PassReport
import SccpConfig.ButtonIndex
import SccpConfig.SoftKeyStore
import SccpConfig.Contexts
import SccpConfig.FindOrCreate
import SccpConfig.ReloadFlags
import SccpConfig.ReloadRun
import SccpConfig.OneRow
import SccpConfig.ReloadHistory
import SccpConfig.ButtonMerge
import SccpConfig.RejectedValues
import SccpConfig.SoftSetRead
import SccpConfig.GroupMask
import SccpConfig.MailboxList
import SccpConfig.RegistryKeys
import SccpConfig.MemberRuns
import SccpConfig.ButtonReload
import SccpConfig.ReloadLists
import SccpConfig.SoftKeyReload
import SccpConfig.ReloadMarks
import SccpConfig.RegistryGrowth
