/-!
# Names of characters that begin with `C`

The names of characters and their aliases, in their order. Each is written as what it differs in from
the one in front of it (`SchemaPress.Text.CharacterName`).
-/

namespace SchemaPress.Text.CharacterName

/-- The names that begin with `C`. -/
def fromC : List String := [
  "aCACTUSeDA UNAfUCEUSgLENDARfL ME HANDkMERAa WITH FLASHoPINGfNaADIAN SYLLABICS AaAaIbYcIaVILIK ",
  "BiNbTHAPASCAN MbSlYcBEAVER DENE LbRmIBLE-CREE YlLACKFOOT AbEbIbKAbEbIbOcNAbEbIbOcObSbWaAbEbIbO",
  "mCaAaAaIcRRIER CHAbEaEcIbObUdDEEbNE GEEfTAL ShIbLAbEaEcIbObUcZAbEaEcIbObUdEEcGAaAcEaEcHAbEaEcI",
  "bObUcIbObUbWAbUdHaEEcIbWAbEaEcIbObUdIaNITIAL ZjJAbEaEcIbJAbEaEcIbObUcObUbWAdKHAbEaEcIbObUcKaAb",
  "EaEcIbObUdLAbEaEcHAbEaEcIbObUcIbObUcMAbEaEcIbObUcNAbEaEcGbIbObUcPaAbEaEcIbObUcRAbEaEcIbObUcSAb",
  "EaEcHaAbEaEcIbObUcIbObUcTHAbEaEcIbObUcLAbEaEcHAbEaEcIbObUcIbObUcSAbEaEcIbObUcTAbEaEcIbObSAbEaE",
  "cIbObUcUdWAbEaEcIbObUcYAbEaEcIbObUcZaAbEaEcIbObUjEbHI SIGNhIaIcOaOcWAaAcEbIaIcOaOeEaASTERN WiN",
  "cFaAaAaIdEbIaIbNAL ACUTEfBOTTOM HALF RINGqDOUBLE ACUTEfSHORT VERTICAL STROKES+bWN TACKjGRAVEfM",
  "IDDLE DOTkPLUSeRAISED DOTjIGHT HALF RINGnNGeSHORT HORIZONTAL STROKEwMALL RINGkTOP HALF RINGsOa",
  "OcULL STOPiWAAeGLOTTAL STOPmHKbYPHENgIaIbNcKaAaAaIcYcEbIaIcOaOcWaAaAbYcEbIaIcOaOeLaAaAaIcYcEbH",
  "aAaAcIaIcOaOdIaIcOaOcWAaAcEbIaIcOaOeMaAaAaIcYcEaDIAL LbRhHbIaIcOaOaSE-CREE SKmWAaAcEbIaIcOaOeN",
  "a-CREE THEbIaIkAaAaIcSKAPI CWAAeKWAAeMWAAeNWAAeS-WcCWAdKWaAdPWAdTWAdWAAeTWAAeWAAcOOdYWAAkTTILI",
  "K HAaAcIaIcOaOdSHRAaAcIaIcOaOmYcEbGaAaAaIcIcIaIcOaOdHbIaIcNGaAaAcIaIcOaOeOaObYcUNAVIK HaAaAcEb",
  "IaIcOaOgUT HiWAaAcEbIaIcOaOeOaJIBWAY CbKbMbNaWIaIcOaOePbSaHcTiNbObYcPaAaAaIcYcEbIaIcOaObYcWAaA",
  "cEbIaIcOaObYeQaAaAaIcIcIaIcOaOdRa-CREE REbWEjAaAaIcYcEbIaIcOaOcWAaAcEEcIaIcOaOeSaAaAaIcYaISI H",
  "AbEbIbOaOdJIbUaUdMbSHAbEbIbOaOcWEeTHcYIiEbHaAaAbYcEbIaIcOaObYcWAaAcEbIaIcOaObYeIaIcOaObUTH-SLA",
  "VEY KAHcEHcIHcOHoYcPAbEbIbOcWaAaAcEbIaIcOaOeTaAaAaIcYcEbHa-CREE THaAaAcEbIaIcOaOkAaAcEbIaIcOaO",
  "cWAaAcEdIaIcLHAbEbIbOaOcWEeOaOcTAbEbHaAaAcEbIbOaOcWEdIbOcWAaAcEbIaIcOaOdYAbEbIbOdWAaAbYcEaST-C",
  "REE CWAaAcEbIaIcOaOeFWAAeKWAaAcEbIaIcOaOeLaAaAcEbOaOcWAaAcEbIaIcOaOeMaWAaAcEbIaIcOaOeNWAaAcEdP",
  "aWAaAcEbIaIcOaOeRaAbEbIbObWAAeSHWAaAcEbIaIcOaOeWAaAcEbIaIcOaOeTHWAAeWAaAcEbIaIcOaOeWAaAcEbIaIc",
  "OaOdYaWAaAcEbIaIcOaOkERN WiIaIcOaOaDS-CREE FINAL THiTHaAbEbIbObWAaAcEEcIaIcOaOqYa-CREE COOdKOO",
  "dLOOdMOOdNOOdOOcPOOcWAAeSOOdTOOdWbYOOjAaAaIcYcEbIaIcOaObYcWAaAcEbIaIcOaOuCELa CHARACTERjTAGeLA",
  "TION XjRdDLEcYcNED FOODiOEdPITULUMgRICORNhR SLIDINGiD FILE BOXiINDEXa DIVIDERSqE OFdTa INSERTI",
  "ON POINTsIAN LETTER Aa2cBbC-18c39eDa2cEa2cGa2cIaIcKa2cLaDa2dMaBa2b3b4dNaDbGbNcObPa2cQbRaRcSaHa",
  "2cSbTa2dTaTa2dUaUaUa2b3bUeXmONbUSEL HORSElP STREAMERjENTRY SAWkRIAGE RETURNlOTeSTLEeTa FACEa W",
  "ITH TEARS OF JOYmWRY SMILEvUCASIAN ALBANIAN CITATION MARKnLETTER ALTcORdBETdCARbYNdHAaTcIbOYdY",
  "AWbYeDATcYANdZAYcYAYfEBbYNdFAMdGHEYSeIMdHEYTeINYAdRBcWNdJAYNdHOXeKARcIWdLANcYITeMAQdNOWCeONcPE",
  "NcIWReQARbYdRATdSEYKdHAaKcOYeTAScIWRdYAYeVEYZeXEYNeYAYDdOWDeZARLdHAbIL+bTION SIGNlCHcEDI SIGNf",
  "LLAfLTIC CROSSkNT SIGNfRE LINE SYMBOLmLINE LOW LINEiOVERLINErRESeGJcHAINScRcKMA AU MARKhDANDAe",
  "IGIT EIGHTfFIVEdOUReNINEeONEdSEVENeIXdTHREEeWOdZEROjOUBLE DANDAmLETTER AAcBAAcHAAeCAAcHAAeDAAc",
  "DAAcHAAeHAAeEbGAAcHAAeHAAdIbJAAcHAAeKAAcHAAeLAAcHAAeMAAdNAAcGAAdNAAdYAAePAAcHAAeRAAdSAAdTAAcHA",
  "AdTAAcHAAfUbVAAdWAAdYAAcYAAlMAAYYAAhO MARKgQUESTION MARKnSECTION MARKlIGN ANUSVARAiCANDRABINDU",
  "lVISARGAmVIRAMAfOWEL SIGN AaAbIbUcEaIcIaIcOaIcUaUrM CONSONANT SIGN FINAL HbMbNGiLAcRAcWAcYArDI",
  "GIT EIGHTfFIVEdOUReNINEeONEdSEVENeIXdTHREEeWOdZEROkLETTER AaIcBAbBAcHAdCHAbHAeDAbDAcHAdEbFINAL",
  " CHcGbKbLbNaGcPbRbSScTbYhGAbHAdHAcIbJAbHAdKAbHAdLAcMAbUEdNAbGAbUEdHAbJAcUEdUEdObPAbHAcPAdRAcSA",
  "bSAdTAbHAdUbVAcYAjPUNCTUATION DANDAeOUBLE DANDAmSPIRALgTRIPLE DANDAyVOWEL SIGN AAbIbUcEIcIaIcO",
  "aEcUaEpRACTER TABULATIONa SETdWITH JUSTIFICATION+cIEjT WITH DOWNWARDS TRENDpUPWARDS TRENDa AND",
  " YEN SIGN+jECK MARKfER BOARDa FILLpERING MEGAPHONEoSE WEDGEjQUERED FLAGlROKEE LETTER AbDAbEbIb",
  "LAcObUbVcEbGAbEbIbObUbVcHAbEbIbNAcObUbVcIbKAcLAbEbIbObUbVcMAbEbIbObUbVcNAaHcEbIbObUbVcObQUAbEb",
  "IbObUbVdSaAbEbIbObUbVcTAbEbIbLAbEbIbObUbVcSAbEbIbObUbVdUbVbWAbEbIbObUbVcYAbEbIbObUbVjSMALL LET",
  "TER AbDAbEbIbLAcObUbVcEbGAbEbIbObUbVcHAbEbIbNAcObUbVcIbKAcLAbEbIbObUbVcMAbEbIbObUbVcNAaHcEbIbO",
  "bUbVcObQUAbEbIbObUbVdSaAbEbIbObUbVcTAbEbIbLAbEbIbObUbVcSAbEbIbObUbVdUbVbWAbEbIbObUbVcYAbEbIbOb",
  "UbVuRIESdY BLOSSOMlSTNUTgI RHOeCKENeLDaREN CROSSINGoPMUNKfRONeOCOLATE BARkPSTICKShRASMIAN LETT",
  "ER ALEPHeYINeBETHeCURLED WAWkDALETHgGIMELfHEaTHeKAPHeLAMEDHgMEMdNUNdPEcRESHeSAMEKHfHINdMALL AL",
  "EPHlTAWdWAWdYODHeZAYINmNUMBER FOUReONEa HUNDREDlTENcHREEeWENTYeOtRISTMAS TREEmURCHfINEMAeRCLE ",
  "DIVIDED BY HORIZONTAL BAR AND TOP HALF DIVIDED BY VERTICAL BAR++kWITH ALL BUT UPPER LEFT QUADR",
  "ANT BLACK+hHORIZONTAL BARoLEFT HALF BLACKoOWER HALF BLACKqRIGHT HALF BLACKqSMALL CIRCLE TO THE",
  " RIGHTyUPERIMPOSED XoTWO HORIZONTAL STROKES TO THE RIGHT+jUPPER HALF BLACKkRIGHT QUADRANT BLAC",
  "K+aVERTICAL FILLtD ANTICLOCKWISE ARROWg-ROTATED DIVISION SIGN+iSTERISK OPERATORrBOLD XfULLETgC",
  " WITH OVERLAID BACKSLASHyCbDbROSS FORMEEa WITH FOUR DOTSjTWO DOTSuPOMMEEhING LANESoDASHdIGIT E",
  "IGHTfFIVEdOUReNINEeONEdSEVENeIXdTHREEeWOdZEROiVISION SIGNdLASHnOLLAR SIGN WITH OVERLAID BACKSL",
  "ASH+hT OPERATORmEQUALSgGREATER-THANmHANGUL CHIEUCHa AiIEUCa AhHIEUHa AhIEUNGa AbUhKHIEUKHa AiI",
  "YEOKa AiMIEUMa AhNIEUNa AhPHIEUPHa AiIEUPa AhRIEULa AhSIOSa AgTHIEUTHa AiIKEUTa AoEAVY WHITE R",
  "IGHTWARDS ARROW+bORIZONTAL BAR WITH NOTCHyUMAN FIGUREmIDEOGRAPH ACCEPTfDVANTAGEiLLIANCEhTTENTI",
  "ONjCENTREfONGRATULATIONmPYcRRECThEARTHeIGHTeNTERPRISEjXCELLENTjFEMALEfINANCIALhREcVEdOUReHAVEd",
  "IGHeITEMeKINDERGARTENlOTOeLABOReEFTdOWdMALEdEDICINEgTALeOONeNAMEdIGHTdNEeONEdPRINTfQUESTIONiRE",
  "LIGIONgSOURCEfTdIGHTfSCHOOLfECRETeVENeIXcOCIETYgPECIALgTOCKdUDYeUITABLEgNbPERVISEjTENcHREEeWOd",
  "WATEReOODnNFORMATION SOURCErTALIC LATIN CAPITAL LETTER CbR+dKATAKANA AbEbHAbEbIbObUcIbKAbEbIbO",
  "bUcMAbEbIbObUcNAbEbIbObUcObRAbEbIbObUcSAbEbIbObUcTAbEbIbObUcUbWAbEbIbOcYAbObUkOREAN CHARACTER ",
  "CHAMKOgJUEUIwLATIN CAPITAL LETTER AbBbCbDbEbFbGbHbIbJbKbLbMbNbObPbQbRbSbTbUbVbWbXbYbZqSMALL LE",
  "TTER AbBbCbDbEbFbGbHbIbJbKbLbMbNbObPbQbRbSbTbUbVbWbXbYbZtESS-THANjMINUSeULTIPLICATION SIGN WIT",
  "H CIRCUMFLEX ACCENT+qNUMBER EIGHTEENdY ON BLACK SQUAREvLEVENgFIFTEENdYa ON BLACK SQUAREuORTYa ",
  "EIGHTfFIVEdOUReNINEeON BLACK SQUAREnEdSEVENeIXdTHREEeWOhURTEENiNINETEENiSEVENTEENdY ON BLACK S",
  "QUAREwIXTEENdY ON BLACK SQUAREvTENa ON BLACK SQUAREsHIRTEENdYa EIGHTfFIVEdOUReNINEeON BLACK SQ",
  "UAREnEdSEVENeIXdTHREEeWOjWELVEdNTYa EIGHTfFIVEdOUReNINEeON BLACK SQUAREnEdSEVENeIXdTHREEeWOrOP",
  "EN CENTRE EIGHT POINTED STAR+ePARALLELhERPENDICULARmLUSdOSTAL MARKlREVERSE SOLIDUSoING OPERATO",
  "RnSQUAREgTIMESeRIANGLEa DOWNnVERTICAL BARmWHITE BULLETgSTARjZcXbZERO WITH SLASHtULATION FUNCTI",
  "ONpMFLEX ACCENTmS TENTjTYSCAPEa AT DUSKqJK COMPATIBILITY IDEOGRAPH-2F800b1b2b3b4b5b6b7b8b9bAbB",
  "bCbDbEbFc10b1b2b3b4b5b6b7b8b9bAbBbCbDbEbFc20b1b2b3b4b5b6b7b8b9bAbBbCbDbEbFc30b1b2b3b4b5b6b7b8b",
  "9bAbBbCbDbEbFc40b1b2b3b4b5b6b7b8b9bAbBbCbDbEbFc50b1b2b3b4b5b6b7b8b9bAbBbCbDbEbFc60b1b2b3b4b5b6",
  "b7b8b9bAbBbCbDbEbFc70b1b2b3b4b5b6b7b8b9bAbBbCbDbEbFc80b1b2b3b4b5b6b7b8b9bAbBbCbDbEbFc90b1b2b3b",
  "4b5b6b7b8b9bAbBbCbDbEbFcA0b1b2b3b4b5b6b7b8b9bAbBbCbDbEbFcB0b1b2b3b4b5b6b7b8b9bAbBbCbDbEbFcC0b1",
  "b2b3b4b5b6b7b8b9bAbBbCbDbEbFcD0b1b2b3b4b5b6b7b8b9bAbBbCbDbEbFcE0b1b2b3b4b5b6b7b8b9bAbBbCbDbEbF",
  "cF0b1b2b3b4b5b6b7b8b9bAbBbCbDbEbFd900b1b2b3b4b5b6b7b8b9bAbBbCbDbEbFc10b1b2b3b4b5b6b7b8b9bAbBbC",
  "bDbEbFc20b1b2b3b4b5b6b7b8b9bAbBbCbDbEbFc30b1b2b3b4b5b6b7b8b9bAbBbCbDbEbFc40b1b2b3b4b5b6b7b8b9b",
  "AbBbCbDbEbFc50b1b2b3b4b5b6b7b8b9bAbBbCbDbEbFc60b1b2b3b4b5b6b7b8b9bAbBbCbDbEbFc70b1b2b3b4b5b6b7",
  "b8b9bAbBbCbDbEbFc80b1b2b3b4b5b6b7b8b9bAbBbCbDbEbFc90b1b2b3b4b5b6b7b8b9bAbBbCbDbEbFcA0b1b2b3b4b",
  "5b6b7b8b9bAbBbCbDbEbFcB0b1b2b3b4b5b6b7b8b9bAbBbCbDbEbFcC0b1b2b3b4b5b6b7b8b9bAbBbCbDbEbFcD0b1b2",
  "b3b4b5b6b7b8b9bAbBbCbDbEbFcE0b1b2b3b4b5b6b7b8b9bAbBbCbDbEbFcF0b1b2b3b4b5b6b7b8b9bAbBbCbDbEbFdA",
  "00b1b2b3b4b5b6b7b8b9bAbBbCbDbEbFc10b1b2b3b4b5b6b7b8b9bAbBbCbDfF900b1b2b3b4b5b6b7b8b9bAbBbCbDbE",
  "bFc10b1b2b3b4b5b6b7b8b9bAbBbCbDbEbFc20b1b2b3b4b5b6b7b8b9bAbBbCbDbEbFc30b1b2b3b4b5b6b7b8b9bAbBb",
  "CbDbEbFc40b1b2b3b4b5b6b7b8b9bAbBbCbDbEbFc50b1b2b3b4b5b6b7b8b9bAbBbCbDbEbFc60b1b2b3b4b5b6b7b8b9",
  "bAbBbCbDbEbFc70b1b2b3b4b5b6b7b8b9bAbBbCbDbEbFc80b1b2b3b4b5b6b7b8b9bAbBbCbDbEbFc90b1b2b3b4b5b6b",
  "7b8b9bAbBbCbDbEbFcA0b1b2b3b4b5b6b7b8b9bAbBbCbDbEbFcB0b1b2b3b4b5b6b7b8b9bAbBbCbDbEbFcC0b1b2b3b4",
  "b5b6b7b8b9bAbBbCbDbEbFcD0b1b2b3b4b5b6b7b8b9bAbBbCbDbEbFcE0b1b2b3b4b5b6b7b8b9bAbBbCbDbEbFcF0b1b",
  "2b3b4b5b6b7b8b9bAbBbCbDbEbFdA00b1b2b3b4b5b6b7b8b9bAbBbCbDbEbFc10b1b2b3b4b5b6b7b8b9bAbBbCbDbEbF",
  "c20b1b2b3b4b5b6b7b8b9bAbBbCbDbEbFc30b1b2b3b4b5b6b7b8b9bAbBbCbDbEbFc40b1b2b3b4b5b6b7b8b9bAbBbCb",
  "DbEbFc50b1b2b3b4b5b6b7b8b9bAbBbCbDbEbFc60b1b2b3b4b5b6b7b8b9bAbBbCbDc70b1b2b3b4b5b6b7b8b9bAbBbC",
  "bDbEbFc80b1b2b3b4b5b6b7b8b9bAbBbCbDbEbFc90b1b2b3b4b5b6b7b8b9bAbBbCbDbEbFcA0b1b2b3b4b5b6b7b8b9b",
  "AbBbCbDbEbFcB0b1b2b3b4b5b6b7b8b9bAbBbCbDbEbFcC0b1b2b3b4b5b6b7b8b9bAbBbCbDbEbFcD0b1b2b3b4b5b6b7",
  "b8b9+cRADICAL BAMBOOfLUEdOLT OF CLOTHlNEcXcRUSH ONEdTWOjC-SIMPLIFIED BIRDeCARTeDRAGONgEATcVENe",
  "FISHdLYcROGeGATEdOLDeHORSEfLEAFdONGeSALTdEEcHELLeILKdPEECHgTANNED LEATHERnOOTHeURTLEgWINDqHOKE",
  "eITYcVILIANhLIFFdOTHESgOWdDEATHeIVINATIONjOGdEAT ONEdTHREEeWOgWEcYEdFIREdOOTeGHOSTeRASS ONEdTH",
  "REEeWOjHANDdEADbRT ONEdTWOiORNeJ-SIMPLIFIED DRAGONgEVENeTOOTHeURTLEsADEeKNIFE ONEdTWOjLAME FOU",
  "ReONEdTHREEeWOhONG ONEdTWOiMEATcSHdOONcRTAReTHEReUND ONEdTWOjNET FOUReONEdTHREEeWOhOLDdPAW ONE",
  "dTWOgERSONgRAINcMbPcEPEATgSEALcCOND ONEdTHREEeWOjHEEPeILKcMPLIFIED HALF TREE TRUNKoORNeWALKdHE",
  "ATfYELLOWqMALL ONEdTWOiNAKEdOUT ONEdTWOiPIRIT ONEdTWOjUNdTABLEeHREADfIGEReURTLEgWALK ONEdTWOgT",
  "ER ONEdTWOiEST ONEdTWOqSTROKE BXGdDbHaGbPaWGdXWGdZaGbTbWaGcZaPbZaGfNbPaDbGbZcQbSaGbPbTbWaGbZcZ",
  "aWGcZdTaNcWGcXGmLAMSHELL MOBILE PHONEtPPER BOARDiING HANDS SIGNqSSICAL BUILDINGqEAR SCREEN SYM",
  "BOLrINKING BEER MUGSjGLASSESnPBOARDhOCK FACE EIGHT OCLOCKh-THIRTYlLEVEN OCLOCKh-THIRTYnFIVE OC",
  "LOCKh-THIRTYkOUR OCLOCKh-THIRTYlNINE OCLOCKh-THIRTYlONE OCLOCKh-THIRTYkSEVEN OCLOCKh-THIRTYlIX",
  " OCLOCKh-THIRTYkTEN OCLOCKh-THIRTYjHREE OCLOCKh-THIRTYlWELVE OCLOCKh-THIRTYlO OCLOCKh-THIRTYqW",
  "ISE CLOSED CIRCLE ARROWsONTOUR INTEGRALqDOWNWARDS AND UPWARDS OPEN CIRCLE ARROWS+oGAPPED CIRCL",
  "E ARROWtINTEGRALiOPEN CIRCLE ARROWrRIGHT AND LEFT SEMICIRCLE ARROWS+bWARDS AND LEFTWARDS OPEN ",
  "CIRCLE ARROWSa WITH CIRCLED ONE OVERLAY++qTOP SEMICIRCLE ARROWtRIANGLE-HEADED OPEN CIRCLE ARRO",
  "W+oSE UPdD BOOKeINTERSECTION WITH SERIFSyLOCK WITH KEYnMAILBOX WITH LOWERED FLAGmRAISED FLAGyS",
  "UBSETa OR EQUAL TOqPERSETa OR EQUAL TOuUMBRELLAhNION WITH SERIFSa AND SMASH PRODUCT+nUDa WITH ",
  "LIGHTNINGjRAINeSNOWeTORNADOpWN FACEjOATcCKROACHfTAIL GLASSlONUTfFFINeINcLLISION SYMBOLnONa EQU",
  "ALSgSIGNiMBINING ACUTE ACCENTa BELOWmTONE MARKk-GRAVE-ACUTElMACRONlLMOST EQUAL TO ABOVEfBELOWu",
  "NNUITY SYMBOLmTICLOCKWISE ARROW ABOVElRING OVERLAYzSTERISK ABOVEfBELOWoBINDU BELOWkREVEa BELOW",
  "g-MACRONkIDGE ABOVEfBELOWmCANDRABINDUjRONa BELOWkEDILLAgIRCUMFLEX ACCENTa BELOWwLOCKWISE ARROW",
  " ABOVElRING OVERLAYvOMMA ABOVEa RIGHTlBELOWjNJOINING MACRONa BELOWwYRILLIC DASIA PNEUMATAoHUND",
  "RED MILLIONS SIGNnTHOUSANDS SIGNwKAVYKAgLETTER AbBEbIG YUShCHEdDEbJERVfEFbLbMbNbRbSa-TEfFITAeG",
  "HEdHAaRD SIGNjIaEbOTIFIED AbBIG YUShEkKAcLITTLE YUSkMONOGRAPH UKmOaMEGAfPEcSHAbCHAeOFT SIGNjTE",
  "bSEdUaKRAINIAN IEmVEcYATcERUdIbUcZEbHEkMILLIONS SIGNnPALATALIZATIONmYEROKgOKRYTIEhSILI PNEUMAT",
  "AoTEN MILLIONS SIGNqHOUSAND MILLIONS SIGNvITLOa LEFT HALFjRIGHT HALFqVZMEToDELETION MARKlVANAG",
  "ARI DIGIT EIGHTfFIVEdOUReNINEeONEdSEVENeIXdTHREEeWOdZEROkLETTER AbKAcNAcPAcRAcUbVIjSIGN AVAGRA",
  "HAxIAERESISa BELOWg-RINGnOT ABOVEa LEFTeRIGHTlBELOWa LEFTlTED ACUTE ACCENTmGRAVE ACCENTrUBLE A",
  "CUTE ACCENTmBREVEa BELOWlCIRCUMFLEX ABOVEqGRAVE ACCENTmINVERTED BREVEa BELOWuLOW LINEiMACRONa ",
  "BELOWmOPEN MARK BELOWoVERLINEiPARENTHESES ABOVEqLUS SIGN ABOVEfBELOWpRIGHTWARDS ARROW BELOWuNG",
  " BELOWkTILDEa LEFT HALFjRIGHT HALFqVERTICAL LINE ABOVEfBELOWkSTROKE OVERLAYyD CIRCUMFLEX ACCEN",
  "TxWN TACK BELOWlWARDS ARROWpENCLOSING CIRCLEa BACKSLASHqDIAMONDhKEYCAPgSCREENfQUAREgUPWARD POI",
  "NTING TRIANGLE+hQUALS SIGN BELOWrFERMATAgOUR DOTS ABOVEpGLAGOLITIC LETTER AZUdBIG YUSgUKYeCHRI",
  "VIgDJERVIfOBROfFITAdRITUfGLAGOLIhHERUeIaNITIAL IZHElOTATED BIG YUShSMALL YUSqZHEeKAKOeLJUDIJEh",
  "MYSLITEhNASHIfONUdPOKOJIgRITSIfSHAbTAdLOVOeMALL YUSjTSIcVRIDOgUKUdVEDEeYATIdERIbUcSTUeObUcZEML",
  "JAfHIVETEyRANTHA DIGIT FIVEdOUReONEdSIXdTHREEeWOdZEROkLETTER AbKAcNAcPAcVIoPHEME JOINERmVE ACC",
  "ENTa BELOWmTONE MARKk-ACUTE-GRAVElMACRONkEEK DIALYTIKA TONOSpKORONIShMUSICAL PENTASEMEjTETRASE",
  "MEiRISEMEpPERISPOMENIlYPOGEGRAMMENItHOMOTHETIC ABOVEoOK ABOVEiRNeINFINITYgVERTED BREVEa BELOWj",
  "IDGE BELOWmDOUBLE ARCH ABOVEfBELOWzS BELOWiKATAKANA-HIRAGANA SEMI-VOICED SOUND MARKwVOICED SOU",
  "ND MARK+hVYKA ABOVE LEFTeRIGHTsLATIN LETTER SMALL CAPITAL GbLbMbNbRwSMALL LETTER Aa WITH DIAER",
  "ESISpEbLPHAeObVcBaETAeCa CEDILLAjDbEaSHcTHdFaLATTENED OPEN A ABOVEwGbHbIaNSULAR DbGbRbTjKbLa W",
  "ITH DOUBLE MIDDLE TILDEzONG SgMbNbOa WITH DIAERESISjLIGHT CENTRALIZATION STROKE+iPbRa BELOWfRO",
  "TUNDAjSaCHWAfTaURNED W BELOWoUa WITH DIAERESISjLIGHT CENTRALIZATION STROKE+iVbWa BELOWhXbZtEFT",
  " ANGLE ABOVEfBELOWkRROW ABOVEfBELOWgHEAD ABOVEfBELOWpHALF RING ABOVEfBELOWnRPOON ABOVEnPARENTH",
  "ESIS ABOVE LEFTkBELOW LEFTwRIGHT ARROW ABOVEfBELOWrTACK BELOWlWARDS ARROW OVERLAYnHARPOON WITH",
  " BARB DOWNWARDS+kIGATURE LEFT HALFa BELOWpRIGHT HALFa BELOWwHT CENTRALIZATION STROKE BELOW+gON",
  "G DOUBLE SOLIDUS OVERLAYwSOLIDUS OVERLAYoTROKE OVERLAYoVERTICAL LINE OVERLAYyW LINEiMACRONa BE",
  "LOWfLEFT HALFa BELOWpRIGHT HALFa BELOWr-ACUTEfBREVEfGRAVElINUS SIGN BELOWqNOT TILDE ABOVEoUMBE",
  "R SIGN ABOVErOGONEKa ABOVElLD PERMIC LETTER ANcDOIdNENOEfSIIdZATAvPEN MARK BELOWoVERLINEiPALAT",
  "ALIZED HOOK BELOWuRENTHESES ABOVEfBELOWfOVERLAYsLUS SIGN ABOVEfBELOWpRETROFLEX HOOK BELOWsVERS",
  "E SOLIDUS OVERLAYqD COMMA ABOVEtIGHT ARROW ABOVEfBELOWgHEAD ABOVEeND DOWN ARROWHEAD BELOWuUP A",
  "RROWHEAD BELOWwBELOWpHALF RING ABOVEfBELOWnRPOON ABOVEnPARENTHESIS ABOVE RIGHTlBELOW RIGHTxTAC",
  "K BELOWlWARDS HARPOON WITH BARB DOWNWARDS+kNG ABOVEfBELOWfOVERLAYmSEAGULL BELOWmHORT SOLIDUS O",
  "VERLAYoTROKE OVERLAYoVERTICAL LINE OVERLAY+aNAKE BELOWkQUARE BELOWeRACKETS ABOVEuTRONG CENTRAL",
  "IZATION STROKE BELOW+hUSPENSION MARKpTHREE DOTS ABOVEpILDEa BELOWfLEFT HALF BELOWpOVERLAYhRIGH",
  "T HALF BELOWvRIPLE ACUTE ACCENTmDOTdUNDERDOToURNED COMMA ABOVEsUP TACK ABOVEfBELOWlWARDS ARROW",
  " BELOWsR ABOVEhS ABOVEiVERTICAL LINE ABOVEfBELOWkTILDEoWIDE BRIDGE ABOVEmINVERTED BRIDGE BELOW",
  "yGGLY LINE BELOWrX ABOVEfBELOWg-X BELOWjZIGZAG ABOVEfBELOWtETcMAbERCIAL ATcMINUS SIGNsPASSdLEM",
  "ENTgOSITION SYMBOLoRESSIONjNFETTI BALLjOUNDED FACElUSED FACEkGRUENT WITH DOT ABOVEvICAL TAPERk",
  "JUNCTIONiSTRUCTION SIGNeWORKERqTAINS AS MEMBERgNORMAL SUBGROUPa OR EQUAL TO+eWITH LONG HORIZON",
  "TAL STROKEwOVERBARhVERTICAL BAR AT END OF HORIZONTAL STROKE+yINUOUS UNDERLINE SYMBOLxOUR INTEG",
  "RALmROL KNOBSfSEQUENCE INTRODUCERyVENIENCE STOREpOKED RICEhIEbNGfPTIC CAPITAL LETTER AKHMIMIC ",
  "KHEImLFAeBOHAIRIC KHEInCROSSED SHEIkYPTOGRAMMIC EIEdGANGIAgNIcSHEIsDALDAeEIcIALECT-P ALEFeHORI",
  "eKAPAeNImEIEdFEIcIcGAMMAdNGIAgHATEdORIeIAUDAfKAPAdHEIcIcSIdL-SHAPED HAkAULAfMIcNIcOaLD COPTIC ",
  "AINdDJAdESHdGANGIAgHAaTcEIcORIeOOUdSHEIcIMAmNUBIAN NGIcYIdSHIMAfWAUnOUdPIbSIdROcSAMPIeHEIcIMAe",
  "IMAdOUdTAUcHETHEgUAcVIDAeZATAsOMBINING NI ABOVEiSPIRITUS ASPERfLENISyEPACT DIGIT EIGHTfFIVEdOU",
  "ReNINEeONEdSEVENeIXdTHREEeWOjNUMBER EIGHT HUNDREDiYgFIFTYdVE HUNDREDlORTYdUR HUNDREDmNINE HUND",
  "REDiTYgONE HUNDREDlSEVEN HUNDREDiTYgIX HUNDREDiTYfTENcHIRTYeREE HUNDREDmWENTYeO HUNDREDsTHOUSA",
  "NDS MARKuFRACTION ONE HALFqULL STOPjMORPHOLOGICAL DIVIDERvOLD NUBIAN DIRECT QUESTION MARKuFULL",
  " STOPjINDIRECT QUESTION MARKwVERSE DIVIDERySMALL LETTER AKHMIMIC KHEImLFAeBOHAIRIC KHEInCROSSE",
  "D SHEIkYPTOGRAMMIC EIEdGANGIAgNIcSHEIsDALDAeEIcIALECT-P ALEFeHORIeKAPAeNImEIEdFEIcIcGAMMAdNGIA",
  "gHATEdORIeIAUDAfKAPAdHEIcIcSIdL-SHAPED HAkAULAfMIcNIcOaLD COPTIC AINdDJAdESHdGANGIAgHAaTcEIcOR",
  "IeOOUdSHEIcIMAmNUBIAN NGIcYIdSHIMAfWAUnOUdPIbSIdROcSAMPIeHEIcIMAeIMAdOUdTAUcHETHEgUAcVIDAeZATA",
  "qYMBOL KAIcHI ROgMI ROfPI ROfSHIMA SIMAjTAUROShTAU ROrYLEFT SYMBOLlRIGHT SIGNmRALcNISH VERSE D",
  "IVIDERsRESPONDS TOmUCH AND LAMPlNTERBOREeSINKgING ROD TENS DIGIT EIGHTfFIVEdOUReNINEeONEdSEVEN",
  "eIXdTHREEeWOoUNIT DIGIT EIGHTfFIVEdOUReNINEeONEdSEVENeIXdTHREEeWOyPLE WITH HEARTpWa FACEhRaABc",
  "EDIT CARDiSCENT MOONlICKETa BAT AND BALLsOCODILEgISSANTgSS MARKeOF JERUSALEMjLORRAINElPATTY WI",
  "TH LEFT CROSSBARnRIGHT CROSSBARyOMMEEa WITH HALF-CIRCLE BELOW+eED FLAGSfNEGATIVE SQUARED LATIN",
  " CAPITAL LETTER P+nSWORDSjING LANESlWNdUTCHdZEIRO SIGNlYING CAT FACEiFACEiSTAL BALLlSIcUBE ROO",
  "ThCUMBERgNEIFORM NUMERIC SIGN EIGHT ASHdDISHeGESH2fSHAR2fUa VARIANT FORMoVARIANT FORM USSUa3xL",
  "AMITE FIFTYeORTYfONE THIRDjTWO THIRDSsFIVE ASHa TENUiBAN2a VARIANT FORMqURUeDISHeGESH2bUfSHAR2",
  "bUeIXTHS DISHlUa VARIANT FORMsOUR ASHa TENUiBAN2a VARIANT FORMqURUeDISHeGESH2bUfSHAR2bUfUa VAR",
  "IANT FORMoVARIANT FORM LIMMUa AbBc4yNIGIDAESHdMINhNE ASHdDISHeGESH2fSHAR2fUa VARIANT FORMoVARI",
  "ANT FORM ILIMMUa Ac3b4zOLD ASSYRIAN ONE QUARTERhSIXTHvNE BAN2dURUeEIGHTH ASHjSHE3fGESH2bUfHALF",
  " GURiQUARTER ASHdGURlSHARUfTHIRD DISHeVARIANT FORM AySEVEN ASHdDISHeGESH2fSHAR2fUa VARIANT FOR",
  "MoVARIANT FORM IMIN AbBc3xHAR2 TIMES GAL PLUS DISHeMINxIX ASHa TENUiDISHeGESH2fSHAR2fUa VARIAN",
  "T FORMoVARIANT FORM ASH9vTHREE ASHa TENUiBAN2dURUa VARIANT FORMrDISHeGESH2bUfSHAR2a VARIANT FO",
  "RMoUa VARIANT FORMsVARIANT FORM ESH16c21xWO ASHa TENUiBAN2dURUeESHE3fGESH2bUfSHAR2bUfTHIRDS DI",
  "SHeVARIANT FORM A+mPUNCTUATION SIGN DIAGONAL COLONfQUADCOLONjTRICOLONrOLD ASSYRIAN WORD DIVIDE",
  "RzVERTICAL COLON+fSIGN Aa TIMES AbBADdGAN2 TENUjHAcIGIdLAGAR GUNUkMUSHeSAGk2bBa GUNUeTIMES ASH",
  "2eDUN3 GUNUjGALbN2 TENUjHAcIGI GUNUhMINeLAGABfNUNa TENUiSHESHdU2eU PLUS U PLUS Uw2a TIMES AbBA",
  "LAGfGAN2 TENUjME PLUS ENkSHA3eTAK4nDa TIMES ESH2mKa TIMES ERIN2fSHITA PLUS GISHxLa TIMES ALcDI",
  "M2eGISHeHAcKAD3dIcSHEdUSHkANcEPHeMARa TIMES KUGdSHEnNa OVER ANhPLUS NAGA OPPOSING AN PLUS NAGA",
  "vSQUAREDrTHREE TIMESmSHEePINdRADa TIMES KURmKABeSAL2dHa KABA TENUjOVER ASH OVER ASHa CROSSING ",
  "ASH OVER ASH OVER ASH+nTUG2 OVER TUG2 TUG2 OVER TUG2 PAP+qZIDA TENUk2bGABgBAaDa TIMES DISH TEN",
  "UrG3cHAR2a TIMES AB2dNIcZAnLa OVER BALjAGdRaA2eIa TIMES AbGARdIGI GUNUqUa CROSSING BUlOVER BU ",
  "ABcTIMES NA2jUNlLUGa OVER BULUGoRa2eDAa TIMES TAK4lGa KISIM5 TIMES A PLUS MASHkMAReBALAGeIcGAa",
  " PLUS MASHlIaR2dUDdHAcIRa PLUS LUkKAKdLAbUa PLUS MASH2lMdNEcPAP PLUS PAPmSIcTAK4eU2 PLUS GIR2e",
  "MASHlSHqTIMES KURk3cMbRaA3b4eIaBbMa TIMES IGIdSHEdU U Um2a TIMES UDlNa KASKAL U GUNU DISHuSHa ",
  "PLUS SHUmUa GUNUeOVER DUhSHESHIGiBa TIMES ESH2eSHEk2cGa TIMES ANSHEeSHa AT LEFTlDINcUNdERIN2fG",
  "AbIaR2 GUNUhSHeHAbIcIGI GUNUiKASKALfURbSHU2a PLUS KASKALsLAK-020fMa TIMES KURmUH PLUS GISHnMAS",
  "HdEScIcNIcPIcSHEcI GUNUoUDdHbNa3a GUNUa GUNUl4cR2eEa OVER E NUN OVER NUNtTIMES PAPk2a TIMES A ",
  "PLUS HA PLUS DArGARdKURdMIcPAPdSALcHEdUjDINdGIRdLbNa CROSSING ENlOPPOSING ENlSQUAREDhTIMES GAN",
  "2a TENUjMEkRENcIN2a XgSH2a CROSSING ESH2rZENa SHESHIG TIMES ASHdHIcIGI GUNUiLAaLdMEaSdSUqTIMES",
  " Aa PLUS LALa TIMES LALtNcBADdDUN3 GUNUa GUNUoGUDdHAa GUNUhIGI GUNUiKASKALa SQUAREDnU3dLAaL TI",
  "MES LALmIbUcSHEcUcU2bDnGAa GUNUf2a OVER GA2iTIMES A PLUS DA PLUS HAkHAcIGIjB2 TENU PLUS TABqNa",
  " PLUS KAK PLUS ArSHa2a PLUS GALnBADbHAR2eR PLUS RAkURa PLUS RAlDAbIaM GUNUeTIMES SHEmUBbG TIME",
  "S IGI GUNUiKASKALqELa PLUS LAjNa TIMES GAN2 TENUrRENeGAaN2 TENUhRa PLUS DIcNEkIa4a PLUS AiR2 P",
  "LUS SUmHA PLUS AbLU PLUS ESH2sLa PLUS LAkI PLUS LIjUB2eIGI GUNUhSH PLUS HU PLUS ASHuKAKbSKALfI",
  "Da PLUS LALlU3 PLUS ANjSHU2 PLUS KASKALsLAaMa TIMES KURmUHdME PLUS ENjIbUSHeNEa PLUS E2cGIjUNa",
  " OVER NUNmPAcSALbRcHEa PLUS TURkIDbMdUMdTAK4eUaDa PLUS DUkZIZ2mBAa CROSSING GABAnROTATED NINET",
  "Y DEGREESzDa OVER GAD GAR OVER GARxLa GAD OVER GAD GAR OVER GAR+aAMdMbNa2a CROSSING GAN2nOVER ",
  "GAN2jTENUhRa3cSHANfE22cSHTINa TIMES KURdUoIa CROSSING GIlTIMES EbUi4a CROSSING GI4mOVER GI4kDI",
  "MdGbR2a GUNUg3a TIMES A PLUS IGIkGAN2 TENUjIGIdLU PLUS IGIlPAlSALcHa CROSSING GISHnTENUdIMES B",
  "ADdGISH CROSSING GISHsTAK4oUa CROSSING GUm2a GUNUeTIMES IGI GUNUiKAKa TIMES IGI GUNUsNUNdSAL P",
  "LUS TUG2vDa OVER GUD LUGALoPLUS GISH TIMES TAK4uTIMES A PLUS KURkKURlLbMa TIMES SHElRa7bUNbSHg",
  "HAa GUNUeTENUa GUNUkLcIa TIMES ASHa OVER HI TIMES ASHs2eBADdDISHeGADdKINdNUNdSHEdUjUaB2a TIMES",
  " ANcHALdKASKALgLISHeUDlL2cSHeIa AcBbDIMa OVER IDIM BURdSQUAREDvGaIa DIBdGUNUeOVER IGI SHIR OVE",
  "R SHIR UD OVER UD+iRIfLa TIMES GAN2 TENUq2cMa CROSSING IMlOPPOSING IMlSQUAREDhTIMES TAK4lINdNb",
  "RbSHdKAa TIMES AaDa PLUS KU3kNSHEeSH2b3eBADbLAGdRcIbUcERIN2eSH2eGAaLbN2 TENUhRa PLUS SHA3 PLUS",
  " AtIaR2cSHa CROSSING GISHnPLUS SARmUaDbR7eHI TIMES ASH2nIGIcMcKAaKcIaDdLIbUaMdMEa PLUS DUcGIcT",
  "EjIa PLUS NUNUZnNEbUNdPAbIcRUcSAaRcHAbEbIDcUaLdIGcUHURfTARcUcUa U Ue2bDbMUM TIMES PAmRa2cSHdZI",
  "j2a CROSSING KA2oBbD2b3b4b5a OVER KAD5mKa TIMES IGI GUNUqLa CROSSING KALmTIMES BADlM2b4cP ELAM",
  "ITEjSKALa LAGAB TIMES U OVER LAGAB TIMES U+gOVER KASKAL LAGAB TIMES U OVER LAGAB TIMES U+yESH2",
  "eIa TIMES BADdUaDjDbNbSALcHbIM5a OVER KISIM5rUa OVER HI TIMES ASH2 KU OVER HI TIMES ASH2+p3b4a",
  " VARIANT FORMo7bLa GUNUgNbRa OPPOSING KURoSHU2fWU318gLAaGABa SQUAREDhTIMES Aa PLUS DA PLUS HAk",
  "GARdLALjLbNbSH ZIDA TENUnBADcIcDARdENcGAaRcIbUDa PLUS GUDmHAaLcI TIMES NUNmIGI GUNUhMa PLUS HA",
  "cLUkKIaNcU3bLa PLUS HI PLUS AsLAGABeISHdUaLdMEa PLUS ENjUSHeNEcSHE PLUS SUMkITA PLUS GISH PLUS",
  " ERIN2kTENUsU2a PLUS SHU2nUMdTAGbK4dE PLUS A PLUS SU PLUS NAzUa PLUS AbU PLUS Uo2 PLUS ASHkDbS",
  "HdZU OVER ZUsRa GUNUa OVER LAGAR GUNU SHEyTIMES SHEa PLUS SUMwHSHUeK-003c21b5c30c50b1c62c79 OV",
  "ER LAK-079 GUNUu80b1 OVER LAK-081p92d130c42d210b9c20b5b8c38c65b6d343b7b8c83b4c90d441b9a TIMES ",
  "GUcIGIdPAP PLUS LU3dPAP PLUS LU3vU2 PLUS BAt50b7c70c83c90b2b3b5d550d608c17a TIMES ASHdBADdDUN3",
  " GUNU GUNUoKU3dLAcTARcEcU2bDbRUDAo36c48a TIMES DUBdGAcIGIa GUNUiNIcPAP PLUS PAP PLUS LU3vSHESH",
  " PLUS KInUDbRUDAp724c49fLa TIMES LALlMa TIMES KURa PLUS RUuIaLbMMU2eSHdUa TIMES BADk2a CROSSIN",
  "G LU2mGUNU TIMES ASHoOPPOSING LU2mSHESHIGa TIMES BADqQUAREDhTENUdIMES ALcBADdDISHeESH2a PLUS L",
  "ALiTENUjGAN2 TENUjHALcI TIMES BADmIMcKAD2b3a PLUS ASHmIcLA PLUS ASHjGABfME PLUS ENkNEbUcPAPa P",
  "LUS PAP PLUS LU3vSHUcI PLUS ASHjK2 PLUS BUmTAK4dUG2m3bGALa OPPOSING LUGALnVER LUGALkSHESHIGlHb",
  "LbMa OVER LUMa GAR OVER GARzMAa GUNUeTIMES TAK4l2bHbRbSHa2eEaSaHdIa PLUS ZA7jNcUa OVER MUiGa G",
  "UNUgNSUBeRGU2eSHa CROSSING MUSHnOVER MUSHa TIMES A PLUS NAjGAcKAKtTIMES AbKURdZAj3a GUNUeTIMES",
  " Aa PLUS DIjDIcZAoNAa2b4bGAa INVERTEDiOPPOSING NAGAnTIMES SHU TENUpRdMa NUTILLUi2dEa SHESHIGhT",
  "IMES AbUDkIa TIMES Ei2bMa TIMES GAN2 TENUhR PLUS GAN2 TENU+aNa9bDA2a TIMES ANbSHa PLUS ASHmBAL",
  "dDIM GUNUiGIaSHdUDbLdHIcKESH2fLAK-050hMASHdE PLUS GAN2 TENUrNEbUNdPAP PLUS PAPmSHEa PLUS A ANd",
  "SHa PLUS ASHvUa PLUS Uh2 PLUS ASHkRUDAeSHoSAGeUa11a OVER NU11 BUR OVER BURwROTATED NINETY DEGR",
  "EESwTENUhNa CROSSING NUNa LAGAR OVER LAGAR+dLAGAR TIMES GARdMASHeSALa OVER NUN LAGAR TIMES SAL",
  "+cUSHpOVER NUNiTENUfUZa AB2 TIMES ASHGABgBIcDUGdGUDdIGI GUNUiKAD3eLAcNEcSILA3fU2mKISIM5 TIMES ",
  "BIa UxPAaDbNbPcESH2a ASTERISKnIa CROSSING PIlTIMES AaBcBIbUcEbIaBcUa2jR2bIGa OPPOSING PIRIGoTI",
  "MES KALdUDcZAoRAaBcIbUcSAaGa GUNUa TIMES HAnNUTILLUhOVER SAGiTIMES AbDUaBdENcHAcIGI GUNUiKAKcU",
  "RdLUMdMIcNUNdSALcHE AT LEFTjIDeTABbK4eU2bBbMbRbSHlLa LAGAB TIMES ASH2sNGA2eRcHAa3a TIMES AbBAD",
  "dGISHeNEcSHU2eTURdUa PLUS Aq6a TENUgB6cR2dEa HUcOVER SHEa GAD OVER GAD GAR OVER GARzTAB OVER T",
  "AB GAR OVER GAR+iPLUS HUB2eNAM2eSARjG9cNbSHa2bLAMgIDa TIMES AbIMkMa TIMES AbBALcULUGfDINdGARdI",
  "GIa GUNUiKUSHU2gLULdMUGdSALlNIGdRa OVER SHIR BUR OVER BURwTENUgTAdUa OVER INVERTED SHUs2a PLUS",
  " DUG TIMES NImE2 TIMES ANsBURfIa GUNUeTIMES TAK4lGa4a OVER SIG4 SHU2rK2cLA3eUa OVER SUiDa2cHUR",
  "dMaASHeRa9eTAa ASTERISKiGUNUeTIMES HIcMIjBa OVER TAB NI OVER NI DISH OVER DISH+iSQUAREDjGa TIM",
  "ES BIcGUDdSHEbUdTUG2eUDkK4a PLUS SAGlRcEa GUNUgIa TENUf2bLbRa OVER TIRa GAD OVER GAD GAR OVER ",
  "GAR+iTIMES TAK4nUaG2cKbMa TIMES GAN2 TENUjTHREE DISHsRa OVER TUR ZA OVER ZAxUa GUDdOVER U PA O",
  "VER PA GAR OVER GARxSUR OVER SURmU REVERSED OVER U REVERSED+hUa Ue2bBbDa GUNUeKUSHU2gSHESHIGa ",
  "TIMES BADrTIMES BADdMIcU PLUS U PLUS Ua GUNU+bUGdMa TIMES LAGABfMEa PLUS DAkSHA3eUiBINdUMa TIM",
  "ES KASKALgPAmNa GUNUgRa CROSSING URlSHESHIGi2a INVERTEDiTIMES A PLUS HAcNAiLcHAcNUNdU2a PLUS A",
  "SHdBIjDk4bIa3cUa TIMES AaSHGABgBARdDARA3eUNdGAaLbN2 TENUhRcUcHAcIGIcMbSHdKIcLAK-668gU3bMdMINdP",
  "AcSHEcIG4eTUcU PLUS GUDjDbRUDAmDAa TIMES UmSHa TIMES AbKUaRdTAK4l2bUMXdXdTUKIeZ3a TIMES KASKAL",
  "oUdZAa SQUARED TIMES KURrTENUf7bGbMXdE2cIa OVER ZIi3bBa KABA TENUlGbZ2dUa OVER ZU PLUS SARr5a ",
  "TIMES AbTHREE DISH TENUxBURdMqP ON BLACK SQUAREpWITH STRAWlCAKEeIDOeRLING STONEjY BRACKET EXTE",
  "NSIONrLOGICAL ANDdORiOPhRENCY EXCHANGEiSIGNjY AND RICElVED STEM PARAGRAPH SIGN ORNAMENT+hSTARD",
  "dOMSfT OF MEATkYCLONEfLINDRICITYkPRIOT SYLLABLE AbEbIbJAbOcKAbEbIbObUcLAbEbIbObUcMAbEbIbObUcNA",
  "bEbIbObUcObPAbEbIbObUcRAbEbIbObUcSAbEbIbObUcTAbEbIbObUcUbWAbEbIbOcXAbEcZAbOpO-MINOAN SIGN CM00",
  "1b2b4b5b6b7b8b9c10b1b2aBc3b5b7b9c21b3b4b5b6b7b8b9c30b3b4b5b6b7b8b9c40b1b4b6b7b9c50b1b2b3b4b5b6",
  "b8b9c60b1b2b3b4b6b7b8b9c70b1b2b3b4b5aBc6b8b9c80b1b2b3b4b5b6b7b8b9c90b1b2b4b5b6b7b8b9d100b1b2b3",
  "b4b5b7b8b9c10b2b4d301b2vRILLIC CAPITAL LETTER Aa WITH BREVEfDIAERESISpBKHASIAN CHEa WITH DESCE",
  "NDERsDZEdHAlLEUT KAiBARRED Oa WITH DIAERESISvSHKIR KAjEbIG YUSfNOCULAR OkLENDED YUSkROAD OMEGA",
  "kYELORUSSIAN-UKRAINIAN IyCCHEdHEa WITH DESCENDERiIAERESISjVERTICAL STROKExLOSED LITTLE YUSqROS",
  "SED OjDCHEdEbJEaRVeOUBLE MONOCULAR OlOhWEcZEaLOdHEcWEcZEbHEfEa WITH DIAERESISpFbLa WITH DESCEN",
  "DERjHOOKeMIDDLE HOOKlTAILlMa WITH TAILlNa WITH DESCENDERjHOOKeLEFT HOOKjMIDDLE HOOKlTAILlRa WI",
  "TH TICKlSa WITH DESCENDERrFITAeGHEa WITH DESCENDERjMIDDLE HOOKlSTROKEa AND HOOKpUPTURNoJEdHAa ",
  "WITH DESCENDERjHOOKeSTROKEmRD SIGNiWEdIa WITH DIAERESISjGRAVEfMACRONmEa WITH BREVEfGRAVEmOaTAb",
  "IFIED AbBIG YUShCLOSED LITTLE YUSrEbLITTLE YUSkYATlZHITSAa WITH DOUBLE GRAVE ACCENT+gJEcKAa WI",
  "TH DESCENDERjHOOKeSTROKEgVERTICAL STROKEwHAKASSIAN CHEnJEcOMI DEbJEcZJEeLJEdNJEdSJEdTJEdZJEgPP",
  "AeSIdLHAcITTLE YUSjJEdMONOCULAR OhGRAPH UKmNEUTRAL YERkJEdOa WITH DIAERESISpMEGAa WITH TITLOpT",
  "cPEa WITH DESCENDERjMIDDLE HOOKsSIdQAcREVERSED DZEdTSEdYUcZEkHAcOUND OMEGAlSCHWAa WITH DIAERES",
  "IStEMISOFT SIGNmHAbCHAdHAa WITH DESCENDERrORT Ia WITH TAILlUfWEdOFT DEcELbMcSIGNiTRAIGHT Ua WI",
  "TH STROKEwTCHEdEa WITH DESCENDERjMIDDLE HOOKsSEbHEcSEcWEdWEdUa WITH DIAERESISiOUBLE ACUTEmMACR",
  "ONmKaRAINIAN IEmVEcWEcYAaEbTcERUa WITH BACK YERiDIAERESISsIbNbUcZEa WITH DESCENDERiIAERESISpML",
  "YAfHEa WITH BREVEfDESCENDERiIAERESISqWEkIGATURE A IEeEN GHEgTE TSExKAVYKAgLETTER MULTIOCULAR O",
  "nPALOCHKAiSMALL CAPITAL ELxPAYEROKhSMALL LETTER Aa WITH BREVEfDIAERESISpBKHASIAN CHEa WITH DES",
  "CENDERsDZEdHAlLEUT KAiBARRED Oa WITH DIAERESISvSHKIR KAjEbIG YUSfNOCULAR OkLENDED YUSkROAD OME",
  "GAkYELORUSSIAN-UKRAINIAN IyCCHEdHEa WITH DESCENDERiIAERESISjVERTICAL STROKExLOSED LITTLE YUSqR",
  "OSSED OjDCHEdEbJEaRVeOUBLE MONOCULAR OlOhWEcZEaLOdHEcWEcZEbHEfEa WITH DIAERESISpFbLa WITH DESC",
  "ENDERjHOOKeMIDDLE HOOKlTAILlMa WITH TAILlNa WITH DESCENDERjHOOKeLEFT HOOKjMIDDLE HOOKlTAILlRa ",
  "WITH TICKlSa WITH DESCENDERrFITAeGHEa WITH DESCENDERjMIDDLE HOOKlSTROKEa AND HOOKpUPTURNoJEdHA",
  "a WITH DESCENDERjHOOKeSTROKEmRD SIGNiWEdIa WITH DIAERESISjGRAVEfMACRONmEa WITH BREVEfGRAVEmOaT",
  "AbIFIED AbBIG YUShCLOSED LITTLE YUSrEbLITTLE YUSkYATlZHITSAa WITH DOUBLE GRAVE ACCENT+gJEcKAa ",
  "WITH DESCENDERjHOOKeSTROKEgVERTICAL STROKEwHAKASSIAN CHEnJEcOMI DEbJEcZJEeLJEdNJEdSJEdTJEdZJEg",
  "PPAeSIdLHAcITTLE YUSjJEcONG-LEGGED DEoMONOCULAR OhGRAPH UKmNARROW OhEUTRAL YERkJEdOa WITH DIAE",
  "RESISpMEGAa WITH TITLOpTcPALOCHKAhEa WITH DESCENDERjMIDDLE HOOKsSIdQAcREVERSED DZEdTSEdYUcZEkH",
  "AcOUND OMEGAgED VEkSCHWAa WITH DIAERESIStEMISOFT SIGNmHAbCHAdHAa WITH DESCENDERrORT Ia WITH TA",
  "ILlUfWEdOFT DEcELbMcSIGNiTRAIGHT Ua WITH STROKEwTALL HARD SIGNjTEcYAThCHEdEa WITH DESCENDERjMI",
  "DDLE HOOKsHREE-LEGGED TEoSEbHEcSEcWEdWEdUa WITH DIAERESISiOUBLE ACUTEmMACRONmKaRAINIAN IElNBLE",
  "NDED UKmVEcWEbIDE EShYAaEbTcERUa WITH BACK YERiDIAERESISsIbNbUcZEa WITH DESCENDERiIAERESISpMLY",
  "AfHEa WITH BREVEfDESCENDERiIAERESISqWEkIGATURE A IEeEN GHEgTE TSEvTHOUSANDS SIGN"]

end SchemaPress.Text.CharacterName
